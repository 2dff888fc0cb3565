import Gatehouse.Http.Token
import Gatehouse.Text.Blank
import Gatehouse.Text.Utf8

/-!
# Header fields

A message carries fields in the order in which they were appended, and a name may occur more than
once. `values` is the view by name; `grouped` lists each name where it first appears, with all its
values.
-/

namespace Gatehouse.Http

/-- Whether a text is a field name: a token without capitals. -/
def isFieldName (s : String) : Bool :=
  isToken s && s.toList.all fun c => !c.isUpper

/-- The name of a header field, in small letters. -/
structure FieldName where
  text : String
  valid : isFieldName text = true := by decide
deriving DecidableEq, Repr

namespace FieldName

theorem text_inj {a b : FieldName} : a.text = b.text ↔ a = b := by
  constructor
  · intro htext
    cases a
    cases b
    cases htext
    rfl
  · exact congrArg text

/-- The name that bytes spell in any letter case. -/
def ofBytes? (bytes : Bytes) : Option FieldName :=
  let text := Text.lowerAscii (Text.ofAscii bytes)
  if h : isFieldName text then some ⟨text, h⟩ else none

def accept : FieldName := ⟨"accept", by decide⟩
def allow : FieldName := ⟨"allow", by decide⟩
def authorization : FieldName := ⟨"authorization", by decide⟩
def connection : FieldName := ⟨"connection", by decide⟩
def contentLength : FieldName := ⟨"content-length", by decide⟩
def contentType : FieldName := ⟨"content-type", by decide⟩
def host : FieldName := ⟨"host", by decide⟩
def keepAlive : FieldName := ⟨"keep-alive", by decide⟩
def location : FieldName := ⟨"location", by decide⟩
def proxyAuthenticate : FieldName := ⟨"proxy-authenticate", by decide⟩
def proxyAuthorization : FieldName := ⟨"proxy-authorization", by decide⟩
def requestId : FieldName := ⟨"x-request-id", by decide⟩
def setCookie : FieldName := ⟨"set-cookie", by decide⟩
def te : FieldName := ⟨"te", by decide⟩
def trailer : FieldName := ⟨"trailer", by decide⟩
def trailers : FieldName := ⟨"trailers", by decide⟩
def transferEncoding : FieldName := ⟨"transfer-encoding", by decide⟩
def upgrade : FieldName := ⟨"upgrade", by decide⟩

end FieldName

/-- The bytes of field values: everything but the controls, of which the tab is allowed. -/
def isFieldByte (b : UInt8) : Bool := (0x20 ≤ b && b ≠ 0x7F) || b = 0x09

structure FieldValue where
  bytes : Bytes
  valid : bytes.all isFieldByte = true
deriving DecidableEq, Repr

namespace FieldValue

/-- The value made of some bytes, if a field may hold them. -/
def ofBytes? (bytes : Bytes) : Option FieldValue :=
  if h : bytes.all isFieldByte then some ⟨bytes, h⟩ else none

/-- The value made of a text, if a field may hold it. -/
def ofString? (s : String) : Option FieldValue := ofBytes? (Text.utf8 s)

/-- Visible ASCII, the space and the tab. -/
def isPlainByte (b : UInt8) : Bool := (0x20 ≤ b && b < 0x7F) || b = 0x09

/-- The text of a value that is visible ASCII, spaces and tabs only. -/
def text? (value : FieldValue) : Option String :=
  if value.bytes.all isPlainByte then some (Text.ofAscii value.bytes) else none

/-- A text as a value, with every character that no field may hold left out. -/
def ofPlain (s : String) : FieldValue :=
  ⟨(Text.utf8 s).filter isFieldByte, by simp⟩

end FieldValue

/-- The header fields of a message. -/
structure Headers where
  fields : List (FieldName × FieldValue)
deriving DecidableEq, Repr

namespace Headers

def empty : Headers := ⟨[]⟩

def append (headers : Headers) (name : FieldName) (value : FieldValue) : Headers :=
  ⟨headers.fields ++ [(name, value)]⟩

/-- The fields of one message after those of another. -/
def appendAll (headers more : Headers) : Headers := ⟨headers.fields ++ more.fields⟩

/-- All values of a name, in order. -/
def values (headers : Headers) (name : FieldName) : List FieldValue :=
  (headers.fields.filter fun field => field.1 = name).map (·.2)

/-- The first value of a name. -/
def get? (headers : Headers) (name : FieldName) : Option FieldValue :=
  (headers.values name).head?

def contains (headers : Headers) (name : FieldName) : Bool :=
  headers.fields.any fun field => field.1 = name

def filterNames (p : FieldName → Bool) (headers : Headers) : Headers :=
  ⟨headers.fields.filter fun field => p field.1⟩

/-- The names in the order of their first appearance. -/
def names (headers : Headers) : List FieldName :=
  (headers.fields.map (·.1)).eraseDups

/-- The fields with all values of a name together, where the name first appears. -/
def grouped (headers : Headers) : List (FieldName × FieldValue) :=
  headers.names.flatMap fun name => (headers.values name).map fun value => (name, value)

/-- The grouped fields in the order of their names. -/
def sorted (headers : Headers) : List (FieldName × FieldValue) :=
  headers.grouped.mergeSort fun a b => a.1.text ≤ b.1.text

/-- Add a field unless its name occurs already. -/
def insertIfAbsent (headers : Headers) (name : FieldName) (value : FieldValue) : Headers :=
  if headers.contains name then headers else headers.append name value

@[simp] theorem values_append (headers : Headers) (name other : FieldName) (value : FieldValue) :
    (headers.append other value).values name =
      headers.values name ++ if other = name then [value] else [] := by
  by_cases h : other = name <;> simp [append, values, h]

@[simp] theorem values_appendAll (headers more : Headers) (name : FieldName) :
    (headers.appendAll more).values name = headers.values name ++ more.values name := by
  simp [appendAll, values]

@[simp] theorem values_filterNames (p : FieldName → Bool) (headers : Headers) (name : FieldName) :
    (headers.filterNames p).values name = if p name then headers.values name else [] := by
  unfold filterNames values
  rw [List.filter_filter]
  split
  · next h =>
    congr 1
    apply List.filter_congr
    intro field _
    by_cases hn : field.1 = name <;> simp [hn, h]
  · next h =>
    rw [List.filter_eq_nil_iff.2, List.map_nil]
    intro field _
    by_cases hn : field.1 = name <;> simp [hn, h]

theorem contains_eq_false_iff {headers : Headers} {name : FieldName} :
    headers.contains name = false ↔ headers.values name = [] := by
  simp [contains, values]

/-- A field is added under a name that has no value, and nothing else changes. -/
theorem values_insertIfAbsent (headers : Headers) (name other : FieldName) (value : FieldValue) :
    (headers.insertIfAbsent other value).values name =
      if other = name ∧ headers.values name = [] then [value] else headers.values name := by
  unfold insertIfAbsent
  cases hcontains : headers.contains other with
  | true =>
    rw [if_pos rfl, if_neg]
    rintro ⟨rfl, hnone⟩
    rw [contains_eq_false_iff.2 hnone] at hcontains
    cases hcontains
  | false =>
    have hnone := contains_eq_false_iff.1 hcontains
    rw [if_neg Bool.false_ne_true, values_append]
    by_cases h : other = name
    · subst h
      simp [hnone]
    · simp [h]

theorem values_insertIfAbsent_of_ne {name other : FieldName} (hname : other ≠ name) (headers : Headers)
    (value : FieldValue) : (headers.insertIfAbsent other value).values name = headers.values name := by
  rw [values_insertIfAbsent, if_neg fun h => hname h.1]

end Headers

end Gatehouse.Http
