/-
  TestRig.Text.Hex

  Bytes as pairs of lower-case hexadecimal digits.
-/
import TestRig.Text.Utf8

namespace TestRig.Text.Hex

/-- The digit of a value below sixteen. -/
def digit (n : Nat) : Char :=
  if n < 10 then Char.ofNat ('0'.toNat + n) else Char.ofNat ('a'.toNat + (n - 10))

/-- The value of a digit, in either case. -/
def value? (c : Char) : Option Nat :=
  if '0' ≤ c ∧ c ≤ '9' then some (c.toNat - '0'.toNat)
  else if 'a' ≤ c ∧ c ≤ 'f' then some (c.toNat - 'a'.toNat + 10)
  else if 'A' ≤ c ∧ c ≤ 'F' then some (c.toNat - 'A'.toNat + 10)
  else none

theorem value?_digit : ∀ n < 16, value? (digit n) = some n := by decide

/-- Is the character a hexadecimal digit, in either case? -/
def isDigit (c : Char) : Bool := (value? c).isSome

/-- The two digits of a byte, the high one first. -/
def pair (b : UInt8) : List Char := [digit (b.toNat / 16), digit (b.toNat % 16)]

/-- The digits of a sequence of bytes. -/
def encodeChars (bytes : Bytes) : List Char := bytes.flatMap pair

/-- The digits of a sequence of bytes, as text. -/
def encode (bytes : Bytes) : String := String.ofList (encodeChars bytes)

/-- The bytes of a list of digits read two at a time, behind the bytes read so far (last first). -/
def decodeOnto (read : Bytes) : List Char → Option Bytes
  | [] => some read.reverse
  | [_] => none
  | high :: low :: rest =>
    match value? high, value? low with
    | some h, some l => decodeOnto (UInt8.ofNat (h * 16 + l) :: read) rest
    | _, _ => none

/-- The bytes of a list of digits; there are none for an odd number of digits or another
character. -/
def decode? (digits : List Char) : Option Bytes := decodeOnto [] digits

example : encodeChars [0x00, 0x9A, 0xFF] = ['0', '0', '9', 'a', 'f', 'f'] := by decide
example : decode? ['9', 'A', 'f', '0'] = some [0x9A, 0xF0] := by decide

end TestRig.Text.Hex
