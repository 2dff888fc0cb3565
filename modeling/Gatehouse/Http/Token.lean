/-!
# Tokens

The words of HTTP: method names and the names of header fields.
-/

namespace Gatehouse.Http

/-- The characters of a token: letters, digits and fifteen marks. -/
def isTokenChar (c : Char) : Bool :=
  c.isAlphanum || c = '!' || c = '#' || c = '$' || c = '%' || c = '&' || c = '\'' || c = '*' ||
    c = '+' || c = '-' || c = '.' || c = '^' || c = '_' || c = '\x60' || c = '|' || c = '~'

def isToken (s : String) : Bool := s ≠ "" && s.toList.all isTokenChar

/-- A request method. -/
structure Method where
  name : String
  valid : isToken name = true := by decide
deriving DecidableEq, Repr

namespace Method

/-- A method is told by its name. -/
theorem name_injective : Function.Injective name := by
  rintro ⟨a, _⟩ ⟨b, _⟩ hname
  cases hname
  rfl

/-- The method of a name, if the name is a token. -/
def ofName? (name : String) : Option Method :=
  if h : isToken name then some ⟨name, h⟩ else none

def get : Method := ⟨"GET", by decide⟩

def head : Method := ⟨"HEAD", by decide⟩

def post : Method := ⟨"POST", by decide⟩

def put : Method := ⟨"PUT", by decide⟩

def patch : Method := ⟨"PATCH", by decide⟩

def delete : Method := ⟨"DELETE", by decide⟩

end Method

end Gatehouse.Http
