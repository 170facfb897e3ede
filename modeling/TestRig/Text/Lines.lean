/-
  TestRig.Text.Lines

  Text as lines.  The lines of a command's output are its pieces between line
  feeds, each without the blanks at its ends; a piece that is blank is no line.
  A carriage return in front of a line feed needs no rule of its own, for it is
  blank and trimming takes it away.
-/
import TestRig.Text.Blank

namespace TestRig.Text

/-! ## Cutting at a separator -/

variable {α : Type} [DecidableEq α]

/-- The pieces of the list between the occurrences of `sep`: one more than there are such
occurrences. -/
def splitAt (sep : α) (text : List α) : List (List α) :=
  text.foldr
    (fun c pieces =>
      if c = sep then [] :: pieces
      else match pieces with
        | piece :: more => (c :: piece) :: more
        | [] => [[c]])
    [[]]

@[simp] theorem splitAt_nil (sep : α) : splitAt sep [] = [[]] := rfl

theorem splitAt_cons (sep c : α) (text : List α) :
    splitAt sep (c :: text) =
      if c = sep then [] :: splitAt sep text
      else match splitAt sep text with
        | piece :: more => (c :: piece) :: more
        | [] => [[c]] := rfl

theorem splitAt_ne_nil (sep : α) (text : List α) : splitAt sep text ≠ [] := by
  cases text with
  | nil => simp
  | cons c text =>
    rw [splitAt_cons]
    split
    · simp
    · split <;> simp

/-! ## Lines -/

/-- The trimmed pieces that are not empty. -/
def trimmedLines (pieces : List (List Char)) : List (List Char) :=
  (pieces.map trimChars).filter (!·.isEmpty)

/-- The lines of a text: trimmed, and without the blank ones. -/
def splitLines (text : String) : List String :=
  (trimmedLines (splitAt '\n' text.toList)).map String.ofList

/-- Lines with a line feed between neighbours. -/
def joinLines (lines : List String) : String := "\n".intercalate lines

end TestRig.Text
