/-
  TestRig.Proofs.Text.Cutting

  Cutting at a separator.  The pieces of `a ++ sep :: b` are those of `a` followed by
  those of `b`; the pieces hold all elements but the separator; and cutting at an ASCII
  character may be done before encoding or after it.
-/
import TestRig.Text.Lines
import TestRig.Proofs.Text.Encoding

namespace TestRig.Text

variable {α : Type} [DecidableEq α]

theorem splitAt_sep (sep : α) (text : List α) :
    splitAt sep (sep :: text) = [] :: splitAt sep text := by
  rw [splitAt_cons, if_pos rfl]

theorem splitAt_cons_of_ne {sep c : α} (h : c ≠ sep) (text : List α) :
    splitAt sep (c :: text) = (splitAt sep text).modifyHead (c :: ·) := by
  rw [splitAt_cons, if_neg h]
  cases hpieces : splitAt sep text with
  | nil => exact absurd hpieces (splitAt_ne_nil sep text)
  | cons piece more => rfl

/-- What holds no separator is joined to the first piece of the rest. -/
theorem splitAt_append_of_notMem {sep : α} {a : List α} (h : sep ∉ a) (b : List α) :
    splitAt sep (a ++ b) = (splitAt sep b).modifyHead (a ++ ·) := by
  induction a with
  | nil =>
    rw [List.nil_append]
    cases splitAt sep b <;> rfl
  | cons c a ih =>
    obtain ⟨hc, ha⟩ := by simpa only [List.mem_cons, not_or] using h
    rw [List.cons_append, splitAt_cons_of_ne (Ne.symm hc), ih ha]
    cases splitAt sep b <;> rfl

theorem splitAt_of_notMem {sep : α} {text : List α} (h : sep ∉ text) :
    splitAt sep text = [text] := by
  simpa using splitAt_append_of_notMem h []

/-- At a separator the pieces of both sides follow one another. -/
theorem splitAt_append_sep (sep : α) (a b : List α) :
    splitAt sep (a ++ sep :: b) = splitAt sep a ++ splitAt sep b := by
  induction a with
  | nil => rw [List.nil_append, splitAt_sep]; rfl
  | cons c a ih =>
    by_cases hc : c = sep
    · rw [hc, List.cons_append, splitAt_sep, splitAt_sep, ih, List.cons_append]
    · rw [List.cons_append, splitAt_cons_of_ne hc, splitAt_cons_of_ne hc, ih]
      cases hpieces : splitAt sep a with
      | nil => exact absurd hpieces (splitAt_ne_nil sep a)
      | cons piece more => rfl

theorem notMem_of_mem_splitAt {sep : α} {text piece : List α} (h : piece ∈ splitAt sep text) :
    sep ∉ piece := by
  induction text generalizing piece with
  | nil => simp_all
  | cons c text ih =>
    by_cases hc : c = sep
    · rw [hc, splitAt_sep, List.mem_cons] at h
      rcases h with rfl | h
      · exact List.not_mem_nil
      · exact ih h
    · rw [splitAt_cons_of_ne hc] at h
      cases hpieces : splitAt sep text with
      | nil => exact absurd hpieces (splitAt_ne_nil sep text)
      | cons first more =>
        rw [hpieces, List.modifyHead_cons, List.mem_cons] at h
        rcases h with rfl | h
        · have hfirst : sep ∉ first := ih (by simp [hpieces])
          simp [hfirst, Ne.symm hc]
        · exact ih (by simp [hpieces, h])

/-- The pieces hold all elements but the separators. -/
theorem exists_mem_splitAt_iff {sep c : α} {text : List α} :
    (∃ piece ∈ splitAt sep text, c ∈ piece) ↔ c ≠ sep ∧ c ∈ text := by
  induction text with
  | nil => simp
  | cons d text ih =>
    by_cases hd : d = sep
    · rw [hd, splitAt_sep]
      simp only [List.mem_cons, exists_eq_or_imp, List.not_mem_nil, false_or, ih]
      exact and_congr_right fun hne => (or_iff_right hne).symm
    · rw [splitAt_cons_of_ne hd]
      cases hpieces : splitAt sep text with
      | nil => exact absurd hpieces (splitAt_ne_nil sep text)
      | cons first more =>
        rw [hpieces] at ih
        simp only [List.modifyHead_cons, List.mem_cons, exists_eq_or_imp] at ih ⊢
        have hother : c = d ∨ c ≠ sep ↔ c ≠ sep := or_iff_right_of_imp fun heq => heq ▸ hd
        rw [or_assoc, ih, or_and_left, hother]

/-- Cutting commutes with encoding when the separator is an ASCII character. -/
theorem splitAt_encodeChars (sep : Char) {b : UInt8} (hascii : b.toNat < 0x80)
    (hb : b.toNat = sep.toNat) (text : List Char) :
    splitAt b (encodeChars text) = (splitAt sep text).map encodeChars := by
  induction text with
  | nil => rfl
  | cons c text ih =>
    by_cases hc : c = sep
    · rw [hc, encodeChars_cons, utf8EncodeChar_of_toNat_eq hascii hb, List.singleton_append,
        splitAt_sep, splitAt_sep, ih, List.map_cons, encodeChars_nil]
    · have hnot : b ∉ String.utf8EncodeChar c := by
        intro hmem
        have hcode := (eq_of_mem_utf8EncodeChar hascii hmem).1
        exact hc (Char.toNat_inj.1 (hcode.symm.trans hb))
      rw [encodeChars_cons, splitAt_append_of_notMem hnot, splitAt_cons_of_ne hc, ih]
      cases splitAt sep text <;> rfl

end TestRig.Text
