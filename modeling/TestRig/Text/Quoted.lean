/-
  TestRig.Text.Quoted

  Text between double quotes, as it is shown in messages: a backslash stands in
  front of a quote and of a backslash, the common controls have a letter each, and
  every other character without a printed form is shown by its code point.
-/
import TestRig.Text.Hex
import TestRig.Text.Unprintable

namespace TestRig.Text.Quoted

/-- How one character is shown between quotes. -/
def escape (c : Char) : List Char :=
  match c with
  | '\x00' => ['\\', '0']
  | '\t' => ['\\', 't']
  | '\n' => ['\\', 'n']
  | '\r' => ['\\', 'r']
  | '"' => ['\\', '"']
  | '\\' => ['\\', '\\']
  | _ =>
    if isPrintable c then [c]
    else ['\\', 'u', '\x7b'] ++ Nat.toDigits 16 c.toNat ++ ['\x7d']

/-- The text between double quotes. -/
def quote (text : String) : String :=
  String.ofList ('"' :: text.toList.flatMap escape ++ ['"'])

end TestRig.Text.Quoted
