/-
  TestRig.Proofs.Text.Finding

  Words in the lines of a text.  A word without the separator lies within one of the
  pieces (`exists_mem_splitAt_infix_iff`), and trimming takes nothing away from a word
  with no blank at its ends (`infix_trimChars_iff`).  So a keyword stands in a line of a
  text exactly if it stands in the text (`IsKeyword.exists_mem_splitLines_iff`), wherever
  the text is cut and however much is trimmed from its lines.
-/
import Mathlib.Tactic.MkIffOfInductiveProp
import TestRig.Proofs.Text.Blank

namespace TestRig.Text

/-! ## Pieces -/

section Pieces

variable {α : Type} [DecidableEq α] {sep : α} {word text piece : List α}

/-- The first piece is what stands in front of the first separator. -/
theorem exists_splitAt_eq (sep : α) (text : List α) :
    ∃ more, splitAt sep text = text.takeWhile (· ≠ sep) :: more := by
  induction text with
  | nil => exact ⟨[], rfl⟩
  | cons c text ih =>
    by_cases hc : c = sep
    · rw [hc, splitAt_sep, List.takeWhile_cons_of_neg (by simp)]
      exact ⟨_, rfl⟩
    · obtain ⟨more, hpieces⟩ := ih
      rw [splitAt_cons_of_ne hc, hpieces, List.takeWhile_cons_of_pos (by simpa using hc)]
      exact ⟨more, rfl⟩

/-- A piece stands in the list from which it was cut. -/
theorem infix_of_mem_splitAt (h : piece ∈ splitAt sep text) : piece <:+: text := by
  induction text with
  | nil =>
    obtain rfl : piece = [] := by simpa using h
    exact List.infix_rfl
  | cons c text ih =>
    have hlater : piece ∈ splitAt sep text → piece <:+: c :: text := fun hpiece =>
      (ih hpiece).trans (List.suffix_cons c text).isInfix
    by_cases hc : c = sep
    · rw [hc, splitAt_sep, List.mem_cons] at h
      rcases h with rfl | h
      · exact List.nil_infix
      · exact hlater h
    · obtain ⟨more, hpieces⟩ := exists_splitAt_eq sep text
      rw [splitAt_cons_of_ne hc, hpieces, List.modifyHead_cons, List.mem_cons] at h
      rcases h with rfl | h
      · -- the first piece grows at the front, so it has to be a prefix
        have hfirst : text.takeWhile (· ≠ sep) <+: text := List.takeWhile_prefix _
        exact (List.cons_prefix_cons.2 ⟨rfl, hfirst⟩).isInfix
      · apply hlater
        rw [hpieces]
        exact List.mem_cons_of_mem _ h

/-- A word without the separator that stands in front lies within the first piece. -/
theorem exists_mem_splitAt_of_prefix (hsep : sep ∉ word) (h : word <+: text) :
    ∃ piece ∈ splitAt sep text, word <:+: piece := by
  obtain ⟨rest, rfl⟩ := h
  obtain ⟨more, hpieces⟩ := exists_splitAt_eq sep rest
  rw [splitAt_append_of_notMem hsep, hpieces]
  exact ⟨_, List.mem_cons_self, (List.prefix_append word _).isInfix⟩

/-- A word without the separator stands in one of the pieces exactly if it stands in the list. -/
theorem exists_mem_splitAt_infix_iff (hsep : sep ∉ word) :
    (∃ piece ∈ splitAt sep text, word <:+: piece) ↔ word <:+: text := by
  constructor
  · rintro ⟨piece, hpiece, hword⟩
    exact hword.trans (infix_of_mem_splitAt hpiece)
  intro h
  induction text with
  | nil => exact ⟨[], List.mem_singleton_self [], h⟩
  | cons c text ih =>
    rcases List.infix_cons_iff.1 h with hfront | hlater
    · exact exists_mem_splitAt_of_prefix hsep hfront
    · obtain ⟨piece, hpiece, hword⟩ := ih hlater
      by_cases hc : c = sep
      · rw [hc, splitAt_sep]
        exact ⟨piece, List.mem_cons_of_mem _ hpiece, hword⟩
      · obtain ⟨more, hpieces⟩ := exists_splitAt_eq sep text
        rw [splitAt_cons_of_ne hc, hpieces, List.modifyHead_cons]
        rw [hpieces] at hpiece
        rcases List.mem_cons.1 hpiece with rfl | hmore
        · exact ⟨_, List.mem_cons_self, hword.trans (List.suffix_cons c _).isInfix⟩
        · exact ⟨piece, List.mem_cons_of_mem _ hmore, hword⟩

end Pieces

/-! ## Trimming -/

/-- What is dropped from the front holds nothing of a word that begins with a character that is not
dropped. -/
theorem infix_dropWhile_iff {α : Type} {p : α → Bool} {word text : List α} (hne : word ≠ [])
    (hstart : word.head?.any p = false) : word <:+: text.dropWhile p ↔ word <:+: text := by
  constructor
  · intro h
    exact h.trans (List.dropWhile_suffix p).isInfix
  · rintro ⟨front, rest, rfl⟩
    have hkept : (word ++ rest).dropWhile p = word ++ rest := by
      cases word with
      | nil => exact absurd rfl hne
      | cons c word =>
        have hc : p c = false := hstart
        rw [List.cons_append, List.dropWhile_cons_of_neg (by simp [hc])]
    rw [List.append_assoc, List.dropWhile_append, hkept]
    split
    · exact (List.prefix_append word rest).isInfix
    · rw [← List.append_assoc]
      exact List.infix_append _ word rest

/-- Trimming takes nothing away from a word with no blank at its ends. -/
theorem infix_trimChars_iff {word text : List Char} (hne : word ≠ [])
    (hstart : word.head?.any isBlank = false) (hend : word.getLast?.any isBlank = false) :
    word <:+: trimChars text ↔ word <:+: text := by
  -- the end is trimmed by dropping from the front of the reversed text
  have hreverse : ∀ text : List Char, word <:+: trimEndChars text ↔ word <:+: text := by
    intro text
    have hback : word.reverse.head?.any isBlank = false := by
      rwa [List.head?_reverse]
    rw [trimEndChars, ← List.reverse_infix, List.reverse_reverse,
      infix_dropWhile_iff (by simpa using hne) hback, List.reverse_infix]
  rw [trimChars, hreverse, infix_dropWhile_iff hne hstart]

/-! ## Lines -/

/-- A word that may be searched for line by line: it is not empty, has no line feed, and neither
begins nor ends with a blank. -/
@[mk_iff]
structure IsKeyword (word : String) : Prop where
  ne_empty : word ≠ ""
  feed_notMem : '\n' ∉ word.toList
  start_not_blank : word.toList.head?.any isBlank = false
  end_not_blank : word.toList.getLast?.any isBlank = false

instance (word : String) : Decidable (IsKeyword word) := decidable_of_iff' _ (isKeyword_iff word)

variable {word text : String}

theorem IsKeyword.toList_ne_nil (h : IsKeyword word) : word.toList ≠ [] := by
  have hne := h.ne_empty
  rwa [ne_eq, ← String.toList_eq_nil_iff] at hne

/-- Trimming a text takes nothing away from a keyword. -/
theorem IsKeyword.infix_trimChars_iff (h : IsKeyword word) {text : List Char} :
    word.toList <:+: trimChars text ↔ word.toList <:+: text :=
  Text.infix_trimChars_iff h.toList_ne_nil h.start_not_blank h.end_not_blank

/-- A keyword stands in one of the trimmed pieces exactly if it stands in one of the pieces: a piece
of which nothing is left holds no keyword. -/
theorem IsKeyword.exists_mem_trimmedLines_iff (h : IsKeyword word) {pieces : List (List Char)} :
    (∃ line ∈ trimmedLines pieces, word.toList <:+: line) ↔
      ∃ piece ∈ pieces, word.toList <:+: piece := by
  constructor
  · rintro ⟨line, hline, hword⟩
    obtain ⟨piece, hpiece, rfl⟩ := List.mem_map.1 (List.mem_filter.1 hline).1
    exact ⟨piece, hpiece, h.infix_trimChars_iff.1 hword⟩
  · rintro ⟨piece, hpiece, hword⟩
    have hkept : word.toList <:+: trimChars piece := h.infix_trimChars_iff.2 hword
    have hfull : trimChars piece ≠ [] := by
      intro hnil
      rw [hnil, List.infix_nil] at hkept
      exact h.toList_ne_nil hkept
    refine ⟨trimChars piece, List.mem_filter.2 ⟨List.mem_map_of_mem hpiece, ?_⟩, hkept⟩
    simpa using hfull

/-- A keyword stands in one of the lines of a text exactly if it stands in the text. -/
theorem IsKeyword.exists_mem_splitLines_iff (h : IsKeyword word) :
    (∃ line ∈ splitLines text, word.toList <:+: line.toList) ↔ word.toList <:+: text.toList := by
  rw [← exists_mem_splitAt_infix_iff h.feed_notMem, ← h.exists_mem_trimmedLines_iff, splitLines]
  simp only [List.mem_map, exists_exists_and_eq_and, String.toList_ofList]

end TestRig.Text
