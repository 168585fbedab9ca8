/-
  Correlator.Text.Quoted — THE DIAGNOSTIC TEXT OF A VALUE.

  Diagnostics show a string between double quotes with the characters escaped
  that do not show as themselves, a list between square brackets, an optional
  value as None or Some(..), and a record as its name with named fields between
  braces.

  Main content:
    * `quoted`  — a string as a diagnostic shows it,
    * `listed`, `optional`, `recordText` — the texts of compound values,
      built from the texts of their parts.
-/
import Correlator.Text.Printable
namespace Correlator.Text

/-! ## Strings -/

/-- The lower-case hexadecimal digits of a number, without padding. -/
def hexDigits (n : Nat) : List Char := Nat.toDigits 16 n

/-- One character inside quotes.  A quote and a backslash are written after a backslash, four
control characters have a letter, and every other character that does not show as itself has its
code between braces. -/
def quotedChar (c : Char) : List Char :=
  if c = '"' then ['\\', '"']
  else if c = '\\' then ['\\', '\\']
  else if c = '\n' then ['\\', 'n']
  else if c = '\t' then ['\\', 't']
  else if c = '\r' then ['\\', 'r']
  else if c = '\x00' then ['\\', '0']
  else if isPrintable c then [c]
  else ['\\', 'u', '\x7b'] ++ hexDigits c.toNat ++ ['\x7d']

/-- A string between double quotes, each of its characters as `quotedChar` writes it. -/
def quoted (s : String) : String :=
  String.ofList ('"' :: (s.toList.flatMap quotedChar ++ ['"']))

/-! ## Compound values -/

/-- The elements between square brackets, separated by a comma and a space. -/
def listed (items : List String) : String := "[" ++ ", ".intercalate items ++ "]"

/-- An optional value, given the text of the value that is there. -/
def optional : Option String → String
  | none => "None"
  | some s => "Some(" ++ s ++ ")"

/-- A truth value. -/
def truth : Bool → String
  | true => "true"
  | false => "false"

/-- A record: its name, then its fields with their texts in order, between braces. -/
def recordText (name : String) (fields : List (String × String)) : String :=
  name ++ " \x7b " ++ ", ".intercalate (fields.map fun f => f.1 ++ ": " ++ f.2) ++ " \x7d"

end Correlator.Text
