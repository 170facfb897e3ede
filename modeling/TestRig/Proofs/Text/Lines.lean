/-
  TestRig.Proofs.Text.Lines

  Lines joined and cut again.  Joined lines are cut where they were joined
  (`splitAt_joinLines`), the lines of two texts with a line feed between them are those
  of the one and then those of the other (`splitLines_append`), and lines that were cut
  once are not changed by being joined and cut again (`splitLines_joinLines_splitLines`).
-/
import TestRig.Proofs.Text.Blank

namespace TestRig.Text

variable {lines : List String} {text : String}

/-! ## Lines that were cut -/

theorem mem_of_mem_trimChars {c : Char} {text : List Char} (h : c ∈ trimChars text) :
    c ∈ text := by
  have hend : c ∈ text.dropWhile isBlank := (List.rdropWhile_prefix isBlank _).subset h
  exact (List.dropWhile_suffix isBlank).subset hend

/-- Trimming texts is trimming their characters. -/
theorem map_ofList_trimmedLines (lines : List String) :
    (trimmedLines (lines.map String.toList)).map String.ofList =
      (lines.map trim).filter (· ≠ "") := by
  induction lines with
  | nil => rfl
  | cons line lines ih =>
    have hempty : trim line = "" ↔ trimChars line.toList = [] := String.ofList_eq_empty_iff
    unfold trimmedLines at ih ⊢
    rw [List.map_cons, List.map_cons, List.map_cons, List.filter_cons, List.filter_cons]
    by_cases hline : trimChars line.toList = []
    · have hdrop : (!(trimChars line.toList).isEmpty) = false := by rw [hline]; rfl
      rw [hdrop, if_neg Bool.false_ne_true, ih, if_neg (by simpa using hempty.2 hline)]
    · have hkeep : (!(trimChars line.toList).isEmpty) = true := by simpa using hline
      have hne : trim line ≠ "" := fun h => hline (hempty.1 h)
      rw [hkeep, if_pos rfl, List.map_cons, ih, if_pos (by simpa using hne)]
      rfl

/-- A line of a text is not empty, is trimmed, and has no line feed. -/
theorem of_mem_splitLines {line : String} (h : line ∈ splitLines text) :
    line ≠ "" ∧ trim line = line ∧ '\n' ∉ line.toList := by
  obtain ⟨chars, hchars, rfl⟩ := List.mem_map.1 h
  obtain ⟨hne, htrim⟩ := of_mem_trimmedLines hchars
  refine ⟨?_, ?_, ?_⟩
  · rwa [ne_eq, String.ofList_eq_empty_iff]
  · rw [trim, String.toList_ofList, htrim]
  · rw [String.toList_ofList]
    obtain ⟨piece, hpiece, rfl⟩ := List.mem_map.1 (List.mem_filter.1 hchars).1
    exact fun hfeed => notMem_of_mem_splitAt hpiece (mem_of_mem_trimChars hfeed)

/-- Trimming changes nothing in the lines of a text. -/
theorem filter_trim_splitLines (text : String) :
    ((splitLines text).map trim).filter (· ≠ "") = splitLines text := by
  have hmap : (splitLines text).map trim = splitLines text :=
    (List.map_congr_left fun line hline => (of_mem_splitLines hline).2.1).trans (List.map_id _)
  rw [hmap, List.filter_eq_self]
  intro line hline
  simpa using (of_mem_splitLines hline).1

/-! ## Joining and cutting -/

theorem toList_joinLines_cons {line : String} (hne : lines ≠ []) :
    (joinLines (line :: lines)).toList = line.toList ++ '\n' :: (joinLines lines).toList := by
  have hfeed : "\n".toList = ['\n'] := rfl
  rw [joinLines, String.intercalate_cons_of_ne_nil hne, String.toList_append,
    String.toList_append, hfeed, List.append_assoc, List.singleton_append]
  rfl

/-- Joined lines are cut where they were joined, if they have no line feeds of their own. -/
theorem splitAt_joinLines (hne : lines ≠ []) (hlines : ∀ line ∈ lines, '\n' ∉ line.toList) :
    splitAt '\n' (joinLines lines).toList = lines.map String.toList := by
  induction lines with
  | nil => exact absurd rfl hne
  | cons line rest ih =>
    have hline : '\n' ∉ line.toList := hlines line List.mem_cons_self
    by_cases hrest : rest = []
    · have htext : joinLines [line] = line := String.intercalate_singleton
      rw [hrest, htext, splitAt_of_notMem hline]
      rfl
    · have hcut := ih hrest fun other hother => hlines other (List.mem_cons_of_mem _ hother)
      rw [toList_joinLines_cons hrest, splitAt_append_sep, splitAt_of_notMem hline, hcut,
        List.map_cons, List.singleton_append]

/-- So the lines of joined lines are these lines, trimmed and without the empty ones. -/
theorem splitLines_joinLines (hlines : ∀ line ∈ lines, '\n' ∉ line.toList) :
    splitLines (joinLines lines) = (lines.map trim).filter (· ≠ "") := by
  by_cases hne : lines = []
  · rw [hne]
    rfl
  · rw [splitLines, splitAt_joinLines hne hlines, map_ofList_trimmedLines]

theorem splitLines_joinLines_splitLines (text : String) :
    splitLines (joinLines (splitLines text)) = splitLines text := by
  rw [splitLines_joinLines fun line hline => (of_mem_splitLines hline).2.2,
    filter_trim_splitLines]

theorem trimmedLines_append (pieces more : List (List Char)) :
    trimmedLines (pieces ++ more) = trimmedLines pieces ++ trimmedLines more := by
  rw [trimmedLines, List.map_append, List.filter_append]
  rfl

/-- The lines of two texts with a line feed between them. -/
theorem splitLines_append (a b : String) :
    splitLines (a ++ "\n" ++ b) = splitLines a ++ splitLines b := by
  have htext : (a ++ "\n" ++ b).toList = a.toList ++ '\n' :: b.toList := by simp
  rw [splitLines, htext, splitAt_append_sep, trimmedLines_append, List.map_append]
  rfl

end TestRig.Text
