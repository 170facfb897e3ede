/-
  TestRig.Text.Search

  Finding and replacing a run of neighbouring elements in a list.  Both work on
  any list, so one definition serves bytes and characters: error streams are
  searched as bytes, package names and templates as characters.
-/

namespace TestRig.Text

variable {α : Type} [BEq α]

/-! ## Occurrence -/

/-- `piece` stands somewhere in the list as a run of neighbouring elements. -/
def occursIn (piece : List α) : List α → Bool
  | [] => piece.isEmpty
  | x :: rest => piece.isPrefixOf (x :: rest) || occursIn piece rest

@[simp] theorem occursIn_nil (piece : List α) : occursIn piece [] = piece.isEmpty := rfl

theorem occursIn_cons (piece : List α) (x : α) (rest : List α) :
    occursIn piece (x :: rest) = (piece.isPrefixOf (x :: rest) || occursIn piece rest) := rfl

/-- Occurrence is the infix relation. -/
theorem occursIn_iff [LawfulBEq α] {piece whole : List α} :
    occursIn piece whole = true ↔ piece <:+: whole := by
  induction whole with
  | nil => simp
  | cons x rest ih =>
    rw [occursIn_cons, Bool.or_eq_true, ih, List.isPrefixOf_iff_prefix, List.infix_cons_iff]

/-! ## Replacement -/

/-- Replaces the occurrences of `piece` by `new`, left to right and without overlap.  The number
says how many elements still belong to the occurrence replaced last and are to be skipped. -/
def replaceFrom (piece new : List α) : Nat → List α → List α
  | _, [] => []
  | skip + 1, _ :: rest => replaceFrom piece new skip rest
  | 0, x :: rest =>
    if piece.isPrefixOf (x :: rest) && !piece.isEmpty then
      new ++ replaceFrom piece new (piece.length - 1) rest
    else x :: replaceFrom piece new 0 rest

/-- Replaces every occurrence of a non-empty `piece` by `new`; an empty `piece` replaces nothing. -/
def replaceAll (piece new whole : List α) : List α := replaceFrom piece new 0 whole

theorem replaceFrom_skip (piece new : List α) (skip : Nat) (whole : List α) :
    replaceFrom piece new skip whole = replaceAll piece new (whole.drop skip) := by
  induction whole generalizing skip with
  | nil => cases skip <;> simp [replaceFrom, replaceAll]
  | cons x rest ih =>
    cases skip with
    | zero => rfl
    | succ skip => simpa [replaceFrom] using ih skip

@[simp] theorem replaceAll_nil (piece new : List α) : replaceAll piece new [] = [] := rfl

/-- At an occurrence the replacement is written and the search goes on behind the occurrence. -/
theorem replaceAll_append [LawfulBEq α] (piece new rest : List α) (h : piece ≠ []) :
    replaceAll piece new (piece ++ rest) = new ++ replaceAll piece new rest := by
  cases piece with
  | nil => exact absurd rfl h
  | cons x piece =>
    have hp : (x :: piece).isPrefixOf (x :: (piece ++ rest)) = true := by
      rw [List.isPrefixOf_iff_prefix]; exact ⟨rest, rfl⟩
    rw [replaceAll, List.cons_append, replaceFrom, hp]
    simp only [List.isEmpty_cons, Bool.not_false, Bool.and_self, if_true, replaceFrom_skip]
    simp

/-- Where no occurrence starts, the element stays. -/
theorem replaceAll_cons_of_not (piece new : List α) (x : α) (rest : List α)
    (h : piece.isPrefixOf (x :: rest) = false) :
    replaceAll piece new (x :: rest) = x :: replaceAll piece new rest := by
  simp [replaceAll, replaceFrom, h]

end TestRig.Text
