/-
  TestRig.Proofs.Command.Gaps

  Which gaps of a template keep a space when the holes of a name are closed.  Closing takes
  holes away with a space each, in three passes, and what the passes leave is told by the
  rows of the gap: spaces with one hole between neighbours.  A row stays open, as one
  space, if no other hole stands beside it (`space_mem_closeGaps_iff`).  The passes are
  followed from the last one to the first, each by induction on its search.
-/
import TestRig.Proofs.Command.Template

namespace TestRig.Template

open Text

variable {name : String} {piece : Piece} {rest pieces others : List Piece}

/-! ## Rows -/

/-- Spaces with one hole of the name between neighbours. -/
inductive Row (name : String) : List Piece → Prop where
  | one : Row name [space]
  | more {row : List Piece} (h : Row name row) : Row name (space :: .hole name :: row)

/-- The pieces start with a row that no hole of the name follows. -/
def RowStarts (name : String) (pieces : List Piece) : Prop :=
  ∃ row after, pieces = row ++ after ∧ Row name row ∧ after.head? ≠ some (.hole name)

/-- Among the pieces is a row that no hole of the name stands beside. -/
def StaysOpen (name : String) (pieces : List Piece) : Prop :=
  ∃ before row after, pieces = before ++ (row ++ after) ∧ Row name row ∧
    before.getLast? ≠ some (.hole name) ∧ after.head? ≠ some (.hole name)

theorem Row.exists_cons {row : List Piece} (h : Row name row) : ∃ more, row = space :: more := by
  cases h with
  | one => exact ⟨[], rfl⟩
  | more h => exact ⟨_, rfl⟩

theorem rowStarts_space_hole_cons :
    RowStarts name (space :: .hole name :: rest) ↔ RowStarts name rest := by
  constructor
  · rintro ⟨row, after, heq, hrow, hafter⟩
    cases hrow with
    | one =>
      obtain rfl : .hole name :: rest = after := by simpa using heq
      simp at hafter
    | @more row hrow =>
      have hrest : rest = row ++ after := by simpa using heq
      exact ⟨row, after, hrest, hrow, hafter⟩
  · rintro ⟨row, after, rfl, hrow, hafter⟩
    exact ⟨_, after, rfl, .more hrow, hafter⟩

theorem rowStarts_space_cons (h : rest.head? ≠ some (.hole name)) :
    RowStarts name (space :: rest) := ⟨[space], rest, rfl, .one, h⟩

theorem not_rowStarts_cons (h : piece ≠ space) : ¬ RowStarts name (piece :: rest) := by
  rintro ⟨row, after, heq, hrow, -⟩
  obtain ⟨more, rfl⟩ := hrow.exists_cons
  exact h (List.cons.inj heq).1

theorem RowStarts.staysOpen (h : RowStarts name pieces) : StaysOpen name pieces := by
  obtain ⟨row, after, heq, hrow, hafter⟩ := h
  exact ⟨[], row, after, heq, hrow, by simp, hafter⟩

theorem not_staysOpen_nil : ¬ StaysOpen name [] := by
  rintro ⟨before, row, after, heq, hrow, -⟩
  obtain ⟨more, rfl⟩ := hrow.exists_cons
  simp at heq

theorem StaysOpen.space_mem (h : StaysOpen name pieces) : space ∈ pieces := by
  obtain ⟨before, row, after, rfl, hrow, -⟩ := h
  obtain ⟨more, rfl⟩ := hrow.exists_cons
  simp

theorem getLast?_cons_ne_iff {last : Piece} : (piece :: rest).getLast? ≠ some last ↔
    rest.getLast? ≠ some last ∧ (rest = [] → piece ≠ last) := by
  cases rest with
  | nil => simp
  | cons next rest => simp [List.getLast?_cons]

/-- A row that stays open starts at once or later. -/
theorem rowStarts_or_of_staysOpen_cons (h : StaysOpen name (piece :: rest)) :
    RowStarts name (piece :: rest) ∨ StaysOpen name rest := by
  obtain ⟨before, row, after, heq, hrow, hbefore, hafter⟩ := h
  cases before with
  | nil => exact .inl ⟨row, after, heq, hrow, hafter⟩
  | cons first before =>
    have hrest : rest = before ++ (row ++ after) := (List.cons.inj heq).2
    exact .inr ⟨before, row, after, hrest, hrow, (getLast?_cons_ne_iff.1 hbefore).1, hafter⟩

/-- Only a hole right in front closes a row. -/
theorem StaysOpen.cons (h : StaysOpen name rest)
    (hgap : ¬ [.hole name, space] <+: piece :: rest) : StaysOpen name (piece :: rest) := by
  obtain ⟨before, row, after, rfl, hrow, hbefore, hafter⟩ := h
  refine ⟨piece :: before, row, after, rfl, hrow, ?_, hafter⟩
  refine getLast?_cons_ne_iff.2 ⟨hbefore, ?_⟩
  rintro rfl rfl
  obtain ⟨more, rfl⟩ := hrow.exists_cons
  exact hgap ⟨more ++ after, rfl⟩

theorem staysOpen_space_cons :
    StaysOpen name (space :: rest) ↔ RowStarts name (space :: rest) ∨ StaysOpen name rest := by
  refine ⟨rowStarts_or_of_staysOpen_cons, ?_⟩
  rintro (h | h)
  · exact h.staysOpen
  · refine h.cons fun hgap => ?_
    cases (List.cons_prefix_cons.1 hgap).1

theorem staysOpen_cons (hne : piece ≠ space) (hgap : ¬ [.hole name, space] <+: piece :: rest) :
    StaysOpen name (piece :: rest) ↔ StaysOpen name rest :=
  ⟨fun h => (rowStarts_or_of_staysOpen_cons h).resolve_left (not_rowStarts_cons hne),
    fun h => h.cons hgap⟩

theorem staysOpen_hole_space_cons :
    StaysOpen name (.hole name :: space :: rest) ↔ StaysOpen name rest := by
  constructor
  · rintro ⟨before, row, after, heq, hrow, hbefore, hafter⟩
    obtain ⟨more, rfl⟩ := hrow.exists_cons
    cases before with
    | nil => cases (List.cons.inj heq).1
    | cons first before =>
      obtain ⟨hfirst, htail⟩ := List.cons.inj heq
      obtain ⟨hlast, hempty⟩ := getLast?_cons_ne_iff.1 hbefore
      cases before with
      | nil => exact absurd hfirst.symm (hempty rfl)
      | cons second before =>
        have hrest : rest = before ++ (space :: more ++ after) := (List.cons.inj htail).2
        exact ⟨before, _, after, hrest, hrow, (getLast?_cons_ne_iff.1 hlast).1, hafter⟩
  · rintro ⟨before, row, after, rfl, hrow, hbefore, hafter⟩
    refine ⟨.hole name :: space :: before, row, after, rfl, hrow, ?_, hafter⟩
    exact getLast?_cons_ne_iff.2 ⟨getLast?_cons_ne_iff.2 ⟨hbefore, by simp⟩, by simp⟩

/-! ## The pass for spaces on both sides -/

/-- Rows stay open in the one as in the other, whatever stands in front. -/
structure OpenAlike (name : String) (pieces others : List Piece) : Prop where
  stays : StaysOpen name pieces ↔ StaysOpen name others
  stays_behind_hole :
    StaysOpen name (.hole name :: pieces) ↔ StaysOpen name (.hole name :: others)
  starts : RowStarts name pieces ↔ RowStarts name others
  starts_behind_space : RowStarts name (space :: pieces) ↔ RowStarts name (space :: others)

theorem OpenAlike.refl (name : String) (pieces : List Piece) : OpenAlike name pieces pieces :=
  ⟨.rfl, .rfl, .rfl, .rfl⟩

theorem OpenAlike.cons (piece : Piece) (h : OpenAlike name pieces others) :
    OpenAlike name (piece :: pieces) (piece :: others) := by
  -- a space may start a row, a hole may go on with one or close it, and anything else ends it
  by_cases hspace : piece = space
  · subst hspace
    have htwo : ∀ rest, RowStarts name (space :: space :: rest) := fun rest =>
      rowStarts_space_cons (by simp)
    refine ⟨?_, ?_, h.starts_behind_space, iff_of_true (htwo _) (htwo _)⟩
    · rw [staysOpen_space_cons, staysOpen_space_cons, h.starts_behind_space, h.stays]
    · rw [staysOpen_hole_space_cons, staysOpen_hole_space_cons, h.stays]
  by_cases hhole : piece = .hole name
  · subst hhole
    have htwo : ∀ rest, StaysOpen name (.hole name :: .hole name :: rest) ↔
        StaysOpen name (.hole name :: rest) := fun rest => staysOpen_cons (by simp) (by simp)
    have hstarts : ∀ rest, ¬ RowStarts name (.hole name :: rest) := fun rest =>
      not_rowStarts_cons (by simp)
    refine ⟨h.stays_behind_hole, ?_, iff_of_false (hstarts _) (hstarts _), ?_⟩
    · rw [htwo, htwo, h.stays_behind_hole]
    · rw [rowStarts_space_hole_cons, rowStarts_space_hole_cons, h.starts]
  · have hstays : ∀ rest, StaysOpen name (piece :: rest) ↔ StaysOpen name rest := fun rest =>
      staysOpen_cons hspace fun hgap => hhole (List.cons_prefix_cons.1 hgap).1.symm
    have hbehind : ∀ rest, StaysOpen name (.hole name :: piece :: rest) ↔ StaysOpen name rest := by
      intro rest
      rw [staysOpen_cons (by simp), hstays]
      simpa using fun hgap : space = piece => hspace hgap.symm
    have hstarts : ∀ rest, ¬ RowStarts name (piece :: rest) := fun rest => not_rowStarts_cons hspace
    have hspaced : ∀ rest, RowStarts name (space :: piece :: rest) := fun rest =>
      rowStarts_space_cons (by simpa using hhole)
    refine ⟨?_, ?_, iff_of_false (hstarts _) (hstarts _), iff_of_true (hspaced _) (hspaced _)⟩
    · rw [hstays, hstays, h.stays]
    · rw [hbehind, hbehind, h.stays]

/-- A hole between two spaces is closed inside of a row. -/
theorem OpenAlike.close (h : OpenAlike name pieces others) :
    OpenAlike name (space :: .hole name :: space :: pieces) (space :: others) := by
  have htwo : ∀ rest, RowStarts name (space :: space :: rest) := fun rest =>
    rowStarts_space_cons (by simp)
  refine ⟨?_, ?_, ?_, ?_⟩
  · rw [staysOpen_space_cons, staysOpen_hole_space_cons, rowStarts_space_hole_cons,
      staysOpen_space_cons, h.starts_behind_space, h.stays]
  · rw [staysOpen_hole_space_cons, staysOpen_hole_space_cons, staysOpen_hole_space_cons, h.stays]
  · rw [rowStarts_space_hole_cons, h.starts_behind_space]
  · refine iff_of_true (htwo _) (htwo _)

theorem openAlike_between (name : String) (pieces : List Piece) :
    OpenAlike name pieces (replaceAll [space, .hole name, space] [space] pieces) := by
  refine replaceAll_induction (List.cons_ne_nil _ _) (P := OpenAlike name) (.refl name []) ?_ ?_
    pieces
  · exact fun rest h => h.close
  · exact fun piece rest _ h => h.cons piece

/-! ## The pass for spaces behind -/

/-- A space of the pieces has no hole of the name behind it. -/
def Loose (name : String) (pieces : List Piece) : Prop :=
  ∃ before after, pieces = before ++ space :: after ∧ after.head? ≠ some (.hole name)

theorem not_loose_nil : ¬ Loose name [] := by
  rintro ⟨before, after, heq, -⟩
  simp at heq

theorem loose_cons_iff : Loose name (piece :: rest) ↔
    (piece = space ∧ rest.head? ≠ some (.hole name)) ∨ Loose name rest := by
  constructor
  · rintro ⟨before, after, heq, hafter⟩
    cases before with
    | nil =>
      obtain ⟨rfl, rfl⟩ := List.cons.inj heq
      exact .inl ⟨rfl, hafter⟩
    | cons first before => exact .inr ⟨before, after, (List.cons.inj heq).2, hafter⟩
  · rintro (⟨rfl, hafter⟩ | ⟨before, after, rfl, hafter⟩)
    · exact ⟨[], rest, rfl, hafter⟩
    · exact ⟨piece :: before, after, rfl, hafter⟩

/-- What is left when each hole has taken the space behind it along.  For the induction it is also
told whether a hole is left at the front, which closes a row that ends before it. -/
theorem loose_behind (name : String) (pieces : List Piece) :
    (Loose name (replaceAll [.hole name, space] [] pieces) ↔ StaysOpen name pieces) ∧
      ((replaceAll [.hole name, space] [] pieces).head? ≠ some (.hole name) ↔
        RowStarts name (space :: pieces)) := by
  refine replaceAll_induction (List.cons_ne_nil _ _) (P := fun pieces out =>
    (Loose name out ↔ StaysOpen name pieces) ∧
      (out.head? ≠ some (.hole name) ↔ RowStarts name (space :: pieces))) ?_ ?_ ?_ pieces
  · exact ⟨iff_of_false not_loose_nil not_staysOpen_nil,
      iff_of_true (by simp) (rowStarts_space_cons (by simp))⟩
  · rintro rest ⟨hloose, hhead⟩
    constructor
    · exact hloose.trans staysOpen_hole_space_cons.symm
    · exact hhead.trans rowStarts_space_hole_cons.symm
  · rintro piece rest hgap ⟨hloose, hhead⟩
    by_cases hspace : piece = space
    · subst hspace
      constructor
      · rw [loose_cons_iff, staysOpen_space_cons, hloose, hhead]
        simp
      · exact iff_of_true (by simp) (rowStarts_space_cons (by simp))
    · have hopen : Loose name (piece :: replaceAll [.hole name, space] [] rest) ↔
          StaysOpen name (piece :: rest) := by
        rw [loose_cons_iff, staysOpen_cons hspace hgap, hloose]
        simp [hspace]
      refine ⟨hopen, ?_⟩
      by_cases hhole : piece = .hole name
      · -- the hole stays since no space is behind it, where a row could go on
        subst hhole
        have hnext : ¬ RowStarts name rest := by
          rintro ⟨row, after, rfl, hrow, -⟩
          obtain ⟨more, rfl⟩ := hrow.exists_cons
          exact hgap ⟨more ++ after, rfl⟩
        exact iff_of_false (by simp) (mt rowStarts_space_hole_cons.1 hnext)
      · have hother : ∀ rest : List Piece, (piece :: rest).head? ≠ some (.hole name) := by
          simpa using hhole
        exact iff_of_true (hother _) (rowStarts_space_cons (hother _))

/-! ## The pass for spaces in front -/

theorem space_mem_front_iff (name : String) (pieces : List Piece) :
    space ∈ replaceAll [space, .hole name] [] pieces ↔ Loose name pieces := by
  refine replaceAll_induction (List.cons_ne_nil _ _)
    (P := fun pieces out => space ∈ out ↔ Loose name pieces) ?_ ?_ ?_ pieces
  · exact iff_of_false List.not_mem_nil not_loose_nil
  · intro rest ih
    have hpair : Loose name (space :: .hole name :: rest) ↔ Loose name rest := by
      rw [loose_cons_iff, loose_cons_iff]
      simp
    exact ih.trans hpair.symm
  · intro piece rest hgap ih
    have hnext : piece = space → rest.head? ≠ some (.hole name) := by
      rintro rfl hhead
      obtain ⟨more, rfl⟩ := List.head?_eq_some_iff.1 hhead
      exact hgap ⟨more, rfl⟩
    rw [List.mem_cons, ih, loose_cons_iff, and_iff_left_of_imp hnext, eq_comm]

/-! ## All passes -/

/-- A space is left of a gap when it has a row that stays open. -/
theorem space_mem_closeGaps_iff :
    space ∈ Pieces.closeGaps name pieces ↔ StaysOpen name pieces := by
  unfold Pieces.closeGaps
  rw [space_mem_front_iff, (loose_behind name _).1, (openAlike_between name pieces).stays]

end TestRig.Template
