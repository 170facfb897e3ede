/-
  TestRig.Proofs.Text.Words

  The words of a text between its spaces.  At a space the words of both sides follow one
  another (`words_append_space`).  Without one the last word of the one side and the
  first word of the other are one word (`exists_words_append`), so there is one word less
  (`length_words_append`).
-/
import Mathlib.Data.List.Induction
import TestRig.Proofs.Text.Cutting
import TestRig.Proofs.Text.Replacing

namespace TestRig.Text

/-- The words of a text: its pieces between spaces, without the empty ones. -/
def words (text : List Char) : List (List Char) := (splitAt ' ' text).filter (!·.isEmpty)

@[simp] theorem words_nil : words [] = [] := rfl

/-! ## At a space -/

theorem words_append_space (a b : List Char) : words (a ++ ' ' :: b) = words a ++ words b := by
  rw [words, splitAt_append_sep, List.filter_append, words, words]

theorem words_space_cons (text : List Char) : words (' ' :: text) = words text :=
  words_append_space [] text

/-- Spaces in front make no words. -/
theorem words_spaces_append (count : Nat) (text : List Char) :
    words (List.replicate count ' ' ++ text) = words text := by
  induction count with
  | zero => rfl
  | succ count ih => rw [List.replicate_succ, List.cons_append, words_space_cons, ih]

/-- Spaces part the words of both sides, however many they are. -/
theorem words_append_spaces_append (a b : List Char) {count : Nat} (h : count ≠ 0) :
    words (a ++ (List.replicate count ' ' ++ b)) = words a ++ words b := by
  obtain ⟨more, rfl⟩ := Nat.exists_eq_succ_of_ne_zero h
  rw [List.replicate_succ, List.cons_append, words_append_space, words_spaces_append]

theorem words_append_spaces (text : List Char) (count : Nat) :
    words (text ++ List.replicate count ' ') = words text := by
  by_cases hcount : count = 0
  · rw [hcount, List.replicate_zero, List.append_nil]
  · have hparted := words_append_spaces_append text [] hcount
    rwa [List.append_nil, words_nil, List.append_nil] at hparted

/-! ## Without a space -/

/-- The text starts with a word. -/
def StartsWord (text : List Char) : Prop := ∃ c rest, text = c :: rest ∧ c ≠ ' '

/-- The text ends with a word. -/
def EndsWord (text : List Char) : Prop := ∃ front c, text = front ++ [c] ∧ c ≠ ' '

theorem StartsWord.append {a : List Char} (h : StartsWord a) (b : List Char) :
    StartsWord (a ++ b) := by
  obtain ⟨c, rest, rfl, hc⟩ := h
  exact ⟨c, rest ++ b, rfl, hc⟩

theorem words_of_notMem {word : List Char} (h : ' ' ∉ word) (hne : word ≠ []) :
    words word = [word] := by
  rw [words, splitAt_of_notMem h]
  simp [hne]

/-- What has no space is part of the word behind it. -/
theorem words_append_of_notMem {start text : List Char} (h : ' ' ∉ start)
    (htext : StartsWord text) : words (start ++ text) = (words text).modifyHead (start ++ ·) := by
  obtain ⟨c, rest, rfl, hc⟩ := htext
  rw [words, words, splitAt_append_of_notMem h, splitAt_cons_of_ne hc]
  cases hpieces : splitAt ' ' rest with
  | nil => exact absurd hpieces (splitAt_ne_nil ' ' rest)
  | cons piece more => simp

/-- Every text ends in a part without a space, and the rest has its own words. -/
theorem exists_last_part (text : List Char) :
    ∃ front part, ' ' ∉ part ∧ ∀ more, words (text ++ more) = front ++ words (part ++ more) := by
  -- the part grows at its end, and starts anew behind a space
  induction text using List.reverseRecOn with
  | nil => exact ⟨[], [], List.not_mem_nil, fun more => rfl⟩
  | append_singleton text c ih =>
    obtain ⟨front, part, hpart, hwords⟩ := ih
    by_cases hc : c = ' '
    · refine ⟨words text, [], List.not_mem_nil, fun more => ?_⟩
      rw [hc, List.append_assoc, List.singleton_append, words_append_space, List.nil_append]
    · refine ⟨front, part ++ [c], ?_, fun more => ?_⟩
      · simp [hpart, Ne.symm hc]
      · rw [List.append_assoc, hwords, List.append_assoc]

/-- Where no space parts two texts, the last word of the one goes on in the first of the other. -/
theorem exists_words_append {text : List Char} (h : EndsWord text) :
    ∃ front last, words text = front ++ [last] ∧ ∀ more, StartsWord more →
      words (text ++ more) = front ++ (words more).modifyHead (last ++ ·) := by
  obtain ⟨start, c, rfl, hc⟩ := h
  obtain ⟨front, part, hpart, hwords⟩ := exists_last_part start
  have hlast : ' ' ∉ part ++ [c] := by simp [hpart, Ne.symm hc]
  have hne : part ++ [c] ≠ [] := by simp
  refine ⟨front, part ++ [c], ?_, fun more hmore => ?_⟩
  · rw [hwords, words_of_notMem hlast hne]
  · rw [List.append_assoc, hwords, ← List.append_assoc, words_append_of_notMem hlast hmore]

/-- There is one word less then. -/
theorem length_words_append {a b : List Char} (ha : EndsWord a) (hb : StartsWord b) :
    (words (a ++ b)).length + 1 = (words a).length + (words b).length := by
  obtain ⟨front, last, hwords, happend⟩ := exists_words_append ha
  rw [happend b hb, hwords, List.length_append, List.length_modifyHead, List.length_append,
    List.length_singleton]
  omega

theorem words_append_inj {a b b' : List Char} (ha : EndsWord a) (hb : StartsWord b)
    (hb' : StartsWord b') : words (a ++ b) = words (a ++ b') ↔ words b = words b' := by
  obtain ⟨front, last, -, happend⟩ := exists_words_append ha
  have hinjective : Function.Injective (List.modifyHead (last ++ ·)) := by
    intro l l' h
    cases l with
    | nil => cases l' with
      | nil => rfl
      | cons first more => cases h
    | cons first more => cases l' with
      | nil => cases h
      | cons first' more' => simpa using h
  rw [happend b hb, happend b' hb', List.append_right_inj, hinjective.eq_iff]

/-! ## Replacing -/

/-- What has no space is taken out of a text by taking it out of each word. -/
theorem words_replaceAll {piece : List Char} (hpiece : piece ≠ []) (hspace : ' ' ∉ piece)
    (text : List Char) : words (replaceAll piece [] text) =
      ((words text).map (replaceAll piece [])).filter (!·.isEmpty) := by
  -- the text is cut at any of its spaces
  induction hlength : text.length using Nat.strongRecOn generalizing text with
  | ind length ih =>
    by_cases hmem : ' ' ∈ text
    · obtain ⟨a, b, rfl⟩ := List.append_of_mem hmem
      rw [List.length_append, List.length_cons] at hlength
      rw [replaceAll_append_cons hpiece hspace, words_append_space, words_append_space,
        ih a.length (by omega) a rfl, ih b.length (by omega) b rfl, List.map_append,
        List.filter_append]
    · have hout : ' ' ∉ replaceAll piece [] text := fun hin =>
        (mem_of_mem_replaceAll hpiece text hin).elim (fun h => by cases h) hmem
      by_cases hne : text = []
      · rw [hne]
        rfl
      · rw [words_of_notMem hmem hne, words, splitAt_of_notMem hout]
        rfl

/-! ## All words together -/

/-- The words hold everything but the spaces. -/
theorem flatten_words (text : List Char) : (words text).flatten = text.filter (· ≠ ' ') := by
  induction text with
  | nil => rfl
  | cons c text ih =>
    by_cases hc : c = ' '
    · rw [hc, words_space_cons, ih, List.filter_cons_of_neg (by simp)]
    · rw [List.filter_cons_of_pos (by simpa using hc), ← ih, words, words, splitAt_cons_of_ne hc]
      cases hpieces : splitAt ' ' text with
      | nil => exact absurd hpieces (splitAt_ne_nil ' ' text)
      | cons piece more => cases piece <;> simp

end TestRig.Text
