/-
  TestRig.Text.Blank

  Blank characters, and text with the blanks at its ends cut off.  A character is
  blank when it has the Unicode property White_Space.  That is more than core's
  `Char.isWhitespace`, and less than a reader may expect: the zero-width space
  U+200B is not blank.
-/

namespace TestRig.Text

/-- The characters with the property White_Space, as ranges of code points. -/
def blankRanges : List (Nat × Nat) :=
  [(0x9, 0xD), (0x20, 0x20), (0x85, 0x85), (0xA0, 0xA0), (0x1680, 0x1680), (0x2000, 0x200A),
   (0x2028, 0x2029), (0x202F, 0x202F), (0x205F, 0x205F), (0x3000, 0x3000)]

/-- Is the character white space? -/
def isBlank (c : Char) : Bool :=
  blankRanges.any fun (low, high) => low ≤ c.toNat && c.toNat ≤ high

example : isBlank ' ' = true ∧ isBlank '\n' = true ∧ isBlank '\u3000' = true := by decide
example : isBlank 'a' = false ∧ isBlank '\u200b' = false := by decide

/-! ## Trimming -/

/-- The characters up to the last one that is not blank. -/
def trimEndChars (text : List Char) : List Char := (text.reverse.dropWhile isBlank).reverse

/-- The characters from the first to the last one that is not blank. -/
def trimChars (text : List Char) : List Char := trimEndChars (text.dropWhile isBlank)

/-- The text without the blanks at its end. -/
def trimEnd (text : String) : String := String.ofList (trimEndChars text.toList)

/-- The text without the blanks at both ends. -/
def trim (text : String) : String := String.ofList (trimChars text.toList)

/-- Does the text hold nothing but blanks? -/
def isBlankText (text : String) : Bool := text.toList.all isBlank

@[simp] theorem toList_trim (text : String) : (trim text).toList = trimChars text.toList := by
  simp [trim]

@[simp] theorem trimChars_nil : trimChars [] = [] := rfl

end TestRig.Text
