/-
  TestRig.Proofs.Text.Blank

  Blank texts and their lines.  A text has no lines exactly if it is blank
  (`splitLines_eq_nil_iff`), lines that are trimmed again stay as they are
  (`trimmedLines_trimmedLines`), and joined lines are blank exactly if all of them are
  (`isBlankText_joinLines`).
-/
import Mathlib.Data.List.DropRight
import Mathlib.Data.List.TakeWhile
import TestRig.Proofs.Text.Cutting

namespace TestRig.Text

/-! ## Trimming -/

theorem isBlankText_iff {text : String} :
    isBlankText text = true ↔ ∀ c ∈ text.toList, isBlank c = true := List.all_eq_true

theorem trimEndChars_eq_rdropWhile (text : List Char) :
    trimEndChars text = text.rdropWhile isBlank := rfl

/-- Nothing is left of a text exactly if it is blank. -/
theorem trimChars_eq_nil_iff {text : List Char} :
    trimChars text = [] ↔ ∀ c ∈ text, isBlank c = true := by
  rw [trimChars, trimEndChars_eq_rdropWhile, List.rdropWhile_eq_nil_iff]
  constructor
  · intro h c hc
    rw [← List.takeWhile_append_dropWhile (p := isBlank) (l := text), List.mem_append] at hc
    rcases hc with hc | hc
    · exact List.mem_takeWhile_imp hc
    · exact h c hc
  · intro h c hc
    exact h c ((List.dropWhile_suffix _).mem hc)

theorem trimChars_trimChars (text : List Char) : trimChars (trimChars text) = trimChars text := by
  have hlead : trimChars text <+: text.dropWhile isBlank := List.rdropWhile_prefix _ _
  -- trimming the end leaves the first character in place, and that is not blank
  have hstart : (trimChars text).dropWhile isBlank = trimChars text := by
    rw [List.dropWhile_eq_self_iff]
    intro hpos
    have hfirst := List.dropWhile_eq_self_iff.1 (List.dropWhile_idempotent isBlank text)
    rw [hlead.getElem hpos]
    exact hfirst (Nat.lt_of_lt_of_le hpos hlead.length_le)
  rw [trimChars, hstart]
  exact List.rdropWhile_idempotent _ _

theorem trim_trim (text : String) : trim (trim text) = trim text := by
  rw [trim, toList_trim, trimChars_trimChars]
  rfl

/-! ## Lines -/

theorem trimmedLines_eq_nil_iff {pieces : List (List Char)} :
    trimmedLines pieces = [] ↔ ∀ piece ∈ pieces, ∀ c ∈ piece, isBlank c = true := by
  simp [trimmedLines, List.filter_eq_nil_iff, trimChars_eq_nil_iff]

/-- A trimmed line has a character that is not blank, and is trimmed. -/
theorem of_mem_trimmedLines {pieces : List (List Char)} {line : List Char}
    (h : line ∈ trimmedLines pieces) : line ≠ [] ∧ trimChars line = line := by
  obtain ⟨hline, hfull⟩ := List.mem_filter.1 h
  obtain ⟨piece, -, rfl⟩ := List.mem_map.1 hline
  exact ⟨by simpa using hfull, trimChars_trimChars piece⟩

/-- Lines that are trimmed again stay as they are. -/
theorem trimmedLines_trimmedLines (pieces : List (List Char)) :
    trimmedLines (trimmedLines pieces) = trimmedLines pieces := by
  have hmap : (trimmedLines pieces).map trimChars = trimmedLines pieces :=
    (List.map_congr_left fun line hline => (of_mem_trimmedLines hline).2).trans (List.map_id _)
  rw [trimmedLines, hmap, List.filter_eq_self]
  intro line hline
  simpa using (of_mem_trimmedLines hline).1

/-- A text has no lines exactly if it is blank. -/
theorem splitLines_eq_nil_iff {text : String} :
    splitLines text = [] ↔ isBlankText text = true := by
  rw [splitLines, List.map_eq_nil_iff, trimmedLines_eq_nil_iff, isBlankText_iff]
  constructor
  · intro h c hc
    by_cases hsep : c = '\n'
    · rw [hsep]
      decide
    · obtain ⟨piece, hpiece, hmem⟩ := exists_mem_splitAt_iff.2 ⟨hsep, hc⟩
      exact h piece hpiece c hmem
  · intro h piece hpiece c hc
    exact h c (exists_mem_splitAt_iff.1 ⟨piece, hpiece, hc⟩).2

theorem not_isBlankText_of_mem_splitLines {text line : String} (h : line ∈ splitLines text) :
    isBlankText line = false := by
  obtain ⟨chars, hchars, rfl⟩ := List.mem_map.1 h
  obtain ⟨hne, htrim⟩ := of_mem_trimmedLines hchars
  rw [← htrim] at hne
  rw [Bool.eq_false_iff, ne_eq, isBlankText_iff, String.toList_ofList]
  exact fun hblank => hne (trimChars_eq_nil_iff.2 hblank)

/-- Joined lines are blank exactly if every line is. -/
theorem isBlankText_joinLines (lines : List String) :
    isBlankText (joinLines lines) = lines.all isBlankText := by
  induction lines with
  | nil => rfl
  | cons line lines ih =>
    cases lines with
    | nil => simp [joinLines]
    | cons next lines =>
      have hfeed : "\n".toList.all isBlank = true := by decide
      rw [joinLines, String.intercalate_cons_cons, List.all_cons, ← ih, joinLines, isBlankText,
        String.toList_append, String.toList_append, List.all_append, List.all_append, hfeed,
        Bool.and_true]
      rfl

/-- The lines of a text, joined, are empty exactly if the text is blank. -/
theorem joinLines_splitLines_eq_empty_iff {text : String} :
    joinLines (splitLines text) = "" ↔ isBlankText text = true := by
  rw [← splitLines_eq_nil_iff]
  constructor
  · intro h
    -- a line of the text would be blank, and no line is
    have hall := isBlankText_joinLines (splitLines text)
    rw [h] at hall
    refine List.eq_nil_iff_forall_not_mem.2 fun line hline => ?_
    have hblank := List.all_eq_true.1 hall.symm line hline
    rw [not_isBlankText_of_mem_splitLines hline] at hblank
    exact Bool.false_ne_true hblank
  · intro h
    rw [h]
    rfl

end TestRig.Text
