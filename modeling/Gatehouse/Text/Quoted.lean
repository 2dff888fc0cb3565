import Gatehouse.Text.Unprintable

/-!
# Quoted texts

How a value is shown inside a message: between double quotes, with quotes, backslashes and the usual
controls escaped, and every other unprintable character written by its number.
-/

namespace Gatehouse.Text

/-- The digits of a number in a base up to sixteen, small letters after 9. -/
def digits (base n : Nat) : String :=
  String.ofList (Nat.toDigits base n)

/-- One character of a quoted text. -/
def quoteChar (c : Char) : List Char :=
  match c with
  | '\x00' => ['\\', '0']
  | '\t' => ['\\', 't']
  | '\r' => ['\\', 'r']
  | '\n' => ['\\', 'n']
  | '"' => ['\\', '"']
  | '\\' => ['\\', '\\']
  | c =>
    if isUnprintable c then
      ['\\', 'u', '\x7b'] ++ Nat.toDigits 16 c.toNat ++ ['\x7d']
    else [c]

/-- A text as it is shown in messages. -/
def quoted (s : String) : String :=
  String.ofList ('"' :: s.toList.flatMap quoteChar ++ ['"'])

end Gatehouse.Text
