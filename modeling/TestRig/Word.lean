/-
  TestRig.Word

  Turning the bits of words of thirty-two bits, as ciphers and digests do.
-/

namespace TestRig.Word

/-- Turns the bits of a word to the left by an amount below thirty-two. -/
def rotateLeft (w by_ : UInt32) : UInt32 := w <<< by_ ||| w >>> (32 - by_)

/-- Turns the bits of a word to the right by an amount below thirty-two. -/
def rotateRight (w by_ : UInt32) : UInt32 := w >>> by_ ||| w <<< (32 - by_)

-- an amount of zero leaves both shifts out, since shifts count modulo thirty-two
example : rotateLeft 0x80000001 0 = 0x80000001 ∧ rotateRight 0x80000001 0 = 0x80000001 := by decide
example : rotateLeft 0x80000001 4 = 0x18 ∧ rotateRight 0x80000001 4 = 0x18000000 := by decide

end TestRig.Word
