/-!
# Command lines

An option takes one value, in the next word or in its own. A word that begins with a hyphen is no value,
except for a hyphen alone. After two hyphens every word stands for itself.
-/

namespace Gatehouse.Operator

/-- Why a command line is not carried out. -/
inductive Stop where
  | usage
  /-- The command line asks how it is used. -/
  | help
deriving DecidableEq, Repr

/-- An option with its long name and perhaps a letter. -/
structure Flag where
  long : String
  short : Option Char := none
deriving DecidableEq, Repr

/-- What one word of a command line is. -/
inductive Word where
  | plain (text : String)
  | long (name : String) (value : Option String)
  | short (letter : Char) (value : Option String)
  /-- Two hyphens. -/
  | endOfOptions
deriving DecidableEq, Repr

/-- The text before and after the first equals sign. -/
def splitEquals (cs : List Char) : String × Option String :=
  let name := String.ofList (cs.takeWhile (· ≠ '='))
  match cs.dropWhile (· ≠ '=') with
  | _ :: value => (name, some (String.ofList value))
  | [] => (name, none)

def Word.ofString (text : String) : Word :=
  match text.toList with
  | ['-', '-'] => .endOfOptions
  | '-' :: '-' :: rest =>
    let (name, value) := splitEquals rest
    .long name value
  | ['-', letter] => .short letter none
  | '-' :: letter :: '=' :: value => .short letter (some (String.ofList value))
  | '-' :: letter :: value => .short letter (some (String.ofList value))
  | _ => .plain text

/-- The values of options by their long names, and the words that stand for themselves. -/
structure Given where
  values : List (String × String) := []
  words : List String := []
deriving DecidableEq, Repr

namespace Given

def value? (given : Given) (flag : Flag) : Option String := given.values.lookup flag.long

/-- Take in the value of an option that was not given before. -/
def add (given : Given) (flag : Flag) (value : String) : Except Stop Given :=
  if (given.value? flag).isSome then .error .usage
  else .ok { given with values := (flag.long, value) :: given.values }

/-- The option of a word and the value in that word. -/
def option? (flags : List Flag) : Word → Option (Flag × Option String)
  | .long name value => (flags.find? fun flag => flag.long = name).map fun flag => (flag, value)
  | .short letter value =>
    (flags.find? fun flag => flag.short = some letter).map fun flag => (flag, value)
  | _ => none

/-- Whether a word asks how a command line is used. -/
def asksForHelp (word : Word) : Bool :=
  word = .long "help" none || word = .short 'h' none

/-- Read words; `pending` is an option whose value comes next. If a command is expected, reading stops
at the first word that stands for itself. -/
def read (flags : List Flag) (forCommand : Bool) :
    Option Flag → Given → List String → Except Stop (Given × List String)
  | none, given, [] => .ok (given, [])
  | some _, _, [] => .error .usage
  | some flag, given, text :: rest =>
    match Word.ofString text with
    | .plain value => (given.add flag value).bind fun given => read flags forCommand none given rest
    | _ => .error .usage
  | none, given, text :: rest =>
    match Word.ofString text with
    | .plain text =>
      if forCommand then .ok (given, text :: rest)
      else read flags forCommand none { given with words := given.words ++ [text] } rest
    | .endOfOptions =>
      if forCommand then .error .usage else .ok ({ given with words := given.words ++ rest }, [])
    | word =>
      if asksForHelp word then .error .help
      else
        match option? flags word with
        | none => .error .usage
        | some (flag, none) => read flags forCommand (some flag) given rest
        | some (flag, some value) =>
          (given.add flag value).bind fun given => read flags forCommand none given rest

end Given

end Gatehouse.Operator
