/-
  TestRig.Proofs.Text.Replacing

  Replacement as an induction over the search, and lists from which some occurrences of
  one element were dropped.
-/
import TestRig.Text.Search

namespace TestRig.Text

variable {α β : Type}

/-! ## The search -/

/-- Past an element that the piece lacks no occurrence reaches. -/
theorem not_starts_append_cons {piece : List α} {x c : α} (hc : c ∉ piece) {text rest : List α}
    (h : ¬ piece <+: x :: text) : ¬ piece <+: x :: (text ++ c :: rest) := by
  rw [← List.cons_append]
  intro hlead
  rcases List.prefix_or_prefix_of_prefix hlead (List.prefix_append (x :: text) (c :: rest)) with
    hshort | ⟨more, rfl⟩
  · exact h hshort
  · rw [List.prefix_append_right_inj] at hlead
    cases more with
    | nil => exact h (List.append_nil _ ▸ List.prefix_rfl)
    | cons d more =>
      obtain ⟨rfl, -⟩ := List.cons_prefix_cons.1 hlead
      exact hc (by simp)

section Search

variable [BEq α] [LawfulBEq α] {piece new : List α}

theorem replaceAll_cons_of_not_starts {x : α} {rest : List α} (h : ¬ piece <+: x :: rest) :
    replaceAll piece new (x :: rest) = x :: replaceAll piece new rest := by
  apply replaceAll_cons_of_not
  rw [← Bool.not_eq_true, List.isPrefixOf_iff_prefix]
  exact h

/-- What holds at each occurrence and each element that starts none holds of the replacement in the
whole list. -/
theorem replaceAll_induction (hpiece : piece ≠ []) {P : List α → List α → Prop} (nil : P [] [])
    (occurrence : ∀ rest, P rest (replaceAll piece new rest) →
      P (piece ++ rest) (new ++ replaceAll piece new rest))
    (other : ∀ x rest, ¬ piece <+: x :: rest → P rest (replaceAll piece new rest) →
      P (x :: rest) (x :: replaceAll piece new rest))
    (whole : List α) : P whole (replaceAll piece new whole) := by
  -- an occurrence is skipped as a whole, so the induction is on the length
  induction hlength : whole.length using Nat.strongRecOn generalizing whole with
  | ind length ih =>
    cases whole with
    | nil => exact nil
    | cons x rest =>
      by_cases h : piece <+: x :: rest
      · obtain ⟨more, hmore⟩ := h
        have hshort : more.length < length := by
          have hpos : 0 < piece.length := List.length_pos_iff.2 hpiece
          have htotal := congrArg List.length hmore
          rw [List.length_append] at htotal
          omega
        rw [← hmore, replaceAll_append piece new more hpiece]
        exact occurrence more (ih _ hshort more rfl)
      · rw [replaceAll_cons_of_not_starts h]
        exact other x rest h (ih _ (by rw [← hlength]; exact Nat.lt_succ_self _) rest rfl)

/-- Nothing is replaced in a text where the piece does not stand. -/
theorem replaceAll_eq_self {whole : List α} (h : ¬ piece <:+: whole) :
    replaceAll piece new whole = whole := by
  induction whole with
  | nil => rfl
  | cons x rest ih =>
    obtain ⟨hstart, hrest⟩ := not_or.1 fun hin => h (List.infix_cons_iff.2 hin)
    rw [replaceAll_cons_of_not_starts hstart, ih hrest]

/-- The search passes a text that lacks the first element of the piece. -/
theorem replaceAll_append_of_notMem {first : α} {text : List α} (h : first ∉ text)
    (rest : List α) :
    replaceAll (first :: piece) new (text ++ rest) =
      text ++ replaceAll (first :: piece) new rest := by
  induction text with
  | nil => rfl
  | cons x text ih =>
    obtain ⟨hx, htext⟩ := not_or.1 fun hmem => h (List.mem_cons.2 hmem)
    have hstart : ¬ first :: piece <+: x :: (text ++ rest) := fun hlead =>
      hx (List.cons_prefix_cons.1 hlead).1
    rw [List.cons_append, replaceAll_cons_of_not_starts hstart, ih htext, List.cons_append]

/-- On both sides of an element that the piece lacks the replacement is made by itself. -/
theorem replaceAll_append_cons (hpiece : piece ≠ []) {c : α} (hc : c ∉ piece)
    (text rest : List α) :
    replaceAll piece new (text ++ c :: rest) =
      replaceAll piece new text ++ c :: replaceAll piece new rest := by
  refine replaceAll_induction hpiece (P := fun text out =>
    replaceAll piece new (text ++ c :: rest) = out ++ c :: replaceAll piece new rest)
    ?_ ?_ ?_ text
  · refine replaceAll_cons_of_not_starts ?_
    rintro ⟨more, hmore⟩
    cases piece with
    | nil => exact hpiece rfl
    | cons d piece =>
      obtain ⟨rfl, -⟩ := List.cons.inj hmore
      exact hc List.mem_cons_self
  · intro text ih
    rw [List.append_assoc, replaceAll_append _ _ _ hpiece, ih, List.append_assoc]
  · intro x text hstart ih
    rw [List.cons_append, replaceAll_cons_of_not_starts (not_starts_append_cons hc hstart), ih,
      List.cons_append]

theorem mem_of_mem_replaceAll (hpiece : piece ≠ []) (whole : List α) {x : α} :
    x ∈ replaceAll piece new whole → x ∈ new ∨ x ∈ whole := by
  refine replaceAll_induction hpiece (P := fun whole out => x ∈ out → x ∈ new ∨ x ∈ whole)
    ?_ ?_ ?_ whole
  · intro hx
    cases hx
  · intro rest ih hx
    rcases List.mem_append.1 hx with hx | hx
    · exact .inl hx
    · exact (ih hx).imp_right (List.mem_append_right _)
  · intro y rest _ ih hx
    rcases List.mem_cons.1 hx with rfl | hx
    · exact .inr List.mem_cons_self
    · exact (ih hx).imp_right (List.mem_cons_of_mem _)

end Search

/-- One element is replaced wherever it stands. -/
theorem replaceAll_singleton [DecidableEq α] (x : α) (new whole : List α) :
    replaceAll [x] new whole = whole.flatMap fun y => if y = x then new else [y] := by
  refine replaceAll_induction (List.cons_ne_nil x [])
    (P := fun whole out => out = whole.flatMap fun y => if y = x then new else [y]) rfl ?_ ?_ whole
  · intro rest ih
    rw [List.singleton_append, List.flatMap_cons, if_pos rfl, ih]
  · intro y rest hstart ih
    have hne : y ≠ x := by
      rintro rfl
      exact hstart ⟨rest, rfl⟩
    rw [List.flatMap_cons, if_neg hne, List.singleton_append, ih]

/-! ## Dropped elements -/

/-- The second list is the first one without a number of occurrences of an element. -/
inductive Dropped (x : α) : Nat → List α → List α → Prop
  | nil : Dropped x 0 [] []
  | keep (y : α) {count : Nat} {whole rest : List α} (h : Dropped x count whole rest) :
    Dropped x count (y :: whole) (y :: rest)
  | drop {count : Nat} {whole rest : List α} (h : Dropped x count whole rest) :
    Dropped x (count + 1) (x :: whole) rest

namespace Dropped

variable {x : α} {count more : Nat} {whole rest : List α}

theorem refl (x : α) (whole : List α) : Dropped x 0 whole whole := by
  induction whole with
  | nil => exact .nil
  | cons y whole ih => exact .keep y ih

theorem eq_of_zero (h : Dropped x 0 whole rest) : rest = whole := by
  induction whole generalizing rest with
  | nil =>
    cases h
    rfl
  | cons y whole ih =>
    cases h with
    | keep y h => rw [ih h]

theorem append {whole' rest' : List α} (h : Dropped x count whole rest)
    (h' : Dropped x more whole' rest') :
    Dropped x (count + more) (whole ++ whole') (rest ++ rest') := by
  induction h with
  | nil => simpa using h'
  | keep y _ ih => exact .keep y ih
  | @drop count _ _ _ ih =>
    rw [Nat.add_right_comm]
    exact .drop ih

theorem trans {last : List α} (h : Dropped x count whole rest) (h' : Dropped x more rest last) :
    Dropped x (count + more) whole last := by
  induction h generalizing more last with
  | nil => simpa using h'
  | keep y _ ih =>
    cases h' with
    | keep _ h' => exact .keep y (ih h')
    | drop h' => exact .drop (ih h')
  | @drop count _ _ _ ih =>
    rw [Nat.add_right_comm]
    exact .drop (ih h')

/-- Elements may be replaced by lists meanwhile, if the dropped one is replaced by one element. -/
theorem flatMap {y : β} {f : α → List β} (hf : f x = [y]) (h : Dropped x count whole rest) :
    Dropped y count (whole.flatMap f) (rest.flatMap f) := by
  induction h with
  | nil => exact .nil
  | keep z _ ih =>
    rw [List.flatMap_cons, List.flatMap_cons]
    simpa using (refl y (f z)).append ih
  | drop _ ih =>
    rw [List.flatMap_cons, hf]
    exact .drop ih

theorem mem {y : α} (h : Dropped x count whole rest) (hy : y ∈ rest) : y ∈ whole := by
  induction h with
  | nil => exact hy
  | keep z _ ih =>
    rcases List.mem_cons.1 hy with rfl | hy
    · exact List.mem_cons_self
    · exact List.mem_cons_of_mem _ (ih hy)
  | drop _ ih => exact List.mem_cons_of_mem _ (ih hy)

/-- Dropping an element does not change how many others there are. -/
theorem countP_eq {p : α → Bool} (hp : p x = false) (h : Dropped x count whole rest) :
    rest.countP p = whole.countP p := by
  induction h with
  | nil => rfl
  | keep y _ ih => rw [List.countP_cons, List.countP_cons, ih]
  | drop _ ih => rw [List.countP_cons_of_neg (by simp [hp]), ih]

end Dropped

end TestRig.Text
