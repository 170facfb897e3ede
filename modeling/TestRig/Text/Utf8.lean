/-
  TestRig.Text.Utf8

  Characters to bytes and back.  Reading bytes cuts them into pieces: a character,
  or a maximal invalid part, which is a lead byte together with those of the bytes
  behind it that could still have continued a character.  Strict reading asks for
  characters only; lenient reading shows each invalid part as U+FFFD.
-/

namespace TestRig

/-- A sequence of bytes: the content of a file, or what a command wrote. -/
abbrev Bytes := List UInt8

namespace Text

/-! ## Encoding -/

/-- The UTF-8 form of a list of characters. -/
def encodeChars (text : List Char) : Bytes := text.flatMap String.utf8EncodeChar

/-- The UTF-8 form of a text. -/
def encode (text : String) : Bytes := encodeChars text.toList

@[simp] theorem encodeChars_nil : encodeChars [] = [] := rfl

@[simp] theorem encodeChars_append (a b : List Char) :
    encodeChars (a ++ b) = encodeChars a ++ encodeChars b := by
  simp [encodeChars]

/-! ## Decoding -/

/-- How many bytes follow a lead byte, if the byte can be one. -/
def furtherBytes (lead : UInt8) : Option Nat :=
  if lead < 0x80 then some 0
  else if lead < 0xC2 then none
  else if lead < 0xE0 then some 1
  else if lead < 0xF0 then some 2
  else if lead < 0xF5 then some 3
  else none

/-- A byte that continues a character: `10xxxxxx`. -/
def isContinuation (b : UInt8) : Bool := 0x80 ≤ b && b ≤ 0xBF

/-- A byte that may stand second behind the lead byte: leads at the edge of their range exclude
overlong forms, surrogates and code points above U+10FFFF. -/
def isSecond (lead b : UInt8) : Bool :=
  if lead = 0xE0 then 0xA0 ≤ b && b ≤ 0xBF
  else if lead = 0xED then 0x80 ≤ b && b ≤ 0x9F
  else if lead = 0xF0 then 0x90 ≤ b && b ≤ 0xBF
  else if lead = 0xF4 then 0x80 ≤ b && b ≤ 0x8F
  else isContinuation b

/-- The bytes at the front of `rest` that continue the character begun by `lead`. -/
def continuation (lead : UInt8) (rest : Bytes) : Bytes :=
  match furtherBytes lead, rest with
  | some (n + 1), b :: more =>
    if isSecond lead b then b :: (more.take n).takeWhile isContinuation else []
  | _, _ => []

/-- The bits of the code point that the lead byte of a character of `n` more bytes holds. -/
def leadBits (lead : UInt8) (n : Nat) : Nat :=
  lead.toNat - (if n = 0 then 0 else 0x100 - 0x80 >>> n)

/-- The character of a lead byte and the bytes that continue it, or `none` when too few do. -/
def piece (lead : UInt8) (tail : Bytes) : Option Char :=
  match furtherBytes lead with
  | some n =>
    if tail.length = n then
      some (Char.ofNat (tail.foldl (fun code b => code * 64 + (b.toNat - 0x80)) (leadBits lead n)))
    else none
  | none => none

/-- Cuts bytes into characters and maximal invalid parts (`none`).  In front of the result stand
the pieces found so far, last one first; the number says how many bytes still belong to the piece
found last. -/
def piecesFrom (found : List (Option Char)) : Nat → Bytes → List (Option Char)
  | _, [] => found.reverse
  | skip + 1, _ :: rest => piecesFrom found skip rest
  | 0, lead :: rest =>
    let tail := continuation lead rest
    piecesFrom (piece lead tail :: found) tail.length rest

/-- The pieces of a sequence of bytes: characters, and `none` for each maximal invalid part. -/
def pieces (bytes : Bytes) : List (Option Char) := piecesFrom [] 0 bytes

/-- What stands for an invalid part in shown text. -/
def replacement : Char := '\uFFFD'

/-- The text of the bytes, with U+FFFD for each invalid part. -/
def decodeLossy (bytes : Bytes) : String :=
  String.ofList ((pieces bytes).map (·.getD replacement))

/-- The text of the bytes, if they are valid UTF-8. -/
def decode? (bytes : Bytes) : Option String :=
  let found := pieces bytes
  if found.all Option.isSome then some (String.ofList (found.filterMap id)) else none

example : pieces [0x68, 0xC3, 0xA9] = [some 'h', some 'é'] := by decide
example : pieces [0xE2, 0x82, 0xAC, 0xF0, 0x9F, 0x98, 0x80] = [some '€', some '😀'] := by decide
example : pieces [0xE2, 0x82, 0x41, 0xC0, 0x80] = [none, some 'A', none, none] := by decide

end Text

end TestRig
