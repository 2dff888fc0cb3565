import Gatehouse.Text.Blank
import Gatehouse.Url.Address

/-!
# Which events are logged

A filter is a list of directives separated by commas. A directive gives a level for a target and all
targets under it, or for everything. Of those that cover a target, the one with the longest name
decides.
-/

namespace Gatehouse.Logging

/-- How much a directive lets through. -/
inductive Level where
  | off
  | error
  | warn
  | info
  | debug
  | trace
deriving DecidableEq, Repr

namespace Level

/-- All levels with their names, the strictest first. -/
def names : List (String × Level) :=
  [("off", off), ("error", error), ("warn", warn), ("info", info), ("debug", debug),
    ("trace", trace)]

/-- The place of a level, zero for the strictest. -/
def rank : Level → Nat
  | off => 0
  | error => 1
  | warn => 2
  | info => 3
  | debug => 4
  | trace => 5

/-- A level by its name in any letter case or by its place. -/
def ofName? (s : String) : Option Level :=
  let lower := Text.lowerAscii s
  (names.find? fun (name, level) =>
    name = lower || s = String.ofList [Nat.digitChar level.rank]).map (·.2)

end Level

/-- A level for everything whose target begins with a text. -/
structure Directive where
  target : String
  level : Level
deriving DecidableEq, Repr

def isTargetChar (c : Char) : Bool := c.isAlphanum || c = '_' || c = ':' || c = '-'

def target? (cs : List Char) : Option String :=
  if cs ≠ [] ∧ cs.all isTargetChar then some (String.ofList cs) else none

/-- One directive: a level, a target, or both. A target alone lets everything through. -/
def Directive.parse? (cs : List Char) : Option Directive :=
  match Url.splitAt '=' cs with
  | [word] =>
    match Level.ofName? (String.ofList word) with
    | some level => some ⟨"", level⟩
    | none => (target? word).map fun target => ⟨target, .trace⟩
  | [word, level] => do
    let target ← target? word
    if level = [] then pure ⟨target, .trace⟩
    else
      let level ← Level.ofName? (String.ofList level)
      pure ⟨target, level⟩
  | _ => none

/-- The texts of the directives of a filter, empty ones left out. -/
def directiveTexts (s : String) : List (List Char) := (Url.splitAt ',' s.toList).filter (· ≠ [])

/-- What is let through when nothing is said: errors. -/
def orErrors (directives : List Directive) : List Directive :=
  if directives = [] then [⟨"", .error⟩] else directives

/-- The directives of a filter, none if one of them cannot be read. -/
def readFilter? (s : String) : Option (List Directive) :=
  ((directiveTexts s).mapM Directive.parse?).map orErrors

/-- The directives of a filter that can be read. -/
def readFilter (s : String) : List Directive :=
  orErrors ((directiveTexts s).filterMap Directive.parse?)

def Directive.covers (directive : Directive) (target : String) : Bool :=
  directive.target.toList.isPrefixOf target.toList

/-- The directive of the longer name, the later one of two equally long ones. -/
def longer (a : Option Directive) (b : Directive) : Option Directive :=
  match a with
  | none => some b
  | some a => if a.target.length ≤ b.target.length then some b else some a

/-- Whether events of a level are logged for a target. -/
def isLogged (directives : List Directive) (target : String) (level : Level) : Bool :=
  match (directives.filter fun d => d.covers target).foldl longer none with
  | some directive => level.rank ≤ directive.level.rank
  | none => false

end Gatehouse.Logging
