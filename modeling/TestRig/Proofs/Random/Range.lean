/-
  TestRig.Proofs.Random.Range

  Drawn numbers lie between their bounds.  The distance from the lower bound is the high
  half of a product of a word and the size of the range, hence below that size.

  Drawing gives up after a thousand and more rejected words.  `Draws` and `DrawsMany` say
  what is drawn when it does not: words are rejected as long as it takes.  The numbers are
  the same ones, unless that many words are rejected in a row (`drawsMany_iff`).
-/
import TestRig.Random.Range

namespace TestRig.Random

variable {low high word n : UInt64}

/-! ## Ranges -/

/-- The number lies between two bounds. -/
def Within (low high n : UInt64) : Prop := low ≤ n ∧ n ≤ high

theorem rangeSize_of_le (h : low ≤ high) :
    rangeSize low high = (high.toNat - low.toNat + 1) % 18446744073709551616 := by
  rw [rangeSize, UInt64.toNat_add, UInt64.toNat_sub_of_le _ _ h]
  rfl

/-- The range of all words is the only one whose size is no word. -/
theorem within_of_rangeSize_eq_zero (h : low ≤ high) (hsize : rangeSize low high = 0)
    (n : UInt64) : Within low high n := by
  rw [rangeSize_of_le h] at hsize
  have hhigh := high.toNat_lt
  have hn := n.toNat_lt
  have hle := UInt64.le_iff_toNat_le.1 h
  constructor <;> rw [UInt64.le_iff_toNat_le] <;> omega

theorem distance_lt (word : UInt64) {size : Nat} (hsize : 0 < size) :
    word.toNat * size / UInt64.size < size := by
  rw [Nat.div_lt_iff_lt_mul (by decide), Nat.mul_comm size]
  exact Nat.mul_lt_mul_of_pos_right word.toNat_lt hsize

theorem within_add (h : low ≤ high) {distance : Nat} (hdistance : distance < rangeSize low high) :
    Within low high (low + UInt64.ofNat distance) := by
  rw [rangeSize_of_le h] at hdistance
  have hhigh := high.toNat_lt
  have hle := UInt64.le_iff_toNat_le.1 h
  have hsum : (low + UInt64.ofNat distance).toNat = low.toNat + distance := by
    rw [UInt64.toNat_add, UInt64.toNat_ofNat']
    omega
  constructor <;> rw [UInt64.le_iff_toNat_le] <;> omega

/-! ## Bounds -/

/-- A word that is accepted stands for a number between the bounds. -/
theorem within_of_accept? (h : low ≤ high) (haccept : accept? low high word = some n) :
    Within low high n := by
  rw [accept?] at haccept
  split at haccept
  · rename_i hsize
    exact within_of_rangeSize_eq_zero h hsize n
  · rename_i hsize
    simp only at haccept
    split at haccept
    · obtain rfl := Option.some.inj haccept
      exact within_add h (distance_lt word (Nat.pos_of_ne_zero hsize))
    · cases haccept

variable {σ : Type} [WordSource σ] {g g' : σ}

theorem within_drawWithin (h : low ≤ high) (attempts : Nat) (g : σ) :
    Within low high (drawWithin low high attempts g).1 := by
  induction attempts generalizing g with
  | zero => exact ⟨UInt64.le_refl low, h⟩
  | succ attempts ih =>
    rw [drawWithin]
    rcases WordSource.next g with ⟨word, g⟩
    cases haccept : accept? low high word with
    | none => simpa only [haccept] using ih g
    | some n => simpa only [haccept] using within_of_accept? h haccept

theorem length_drawMany (low high : UInt64) (count : Nat) (g : σ) :
    (drawMany low high count g).length = count := by
  induction count generalizing g with
  | zero => rfl
  | succ count ih => rw [drawMany, List.length_cons, ih]

/-- Fewer numbers are the first of more. -/
theorem drawMany_take (low high : UInt64) {few many : Nat} (h : few ≤ many) (g : σ) :
    (drawMany low high many g).take few = drawMany low high few g := by
  induction few generalizing many g with
  | zero => rw [List.take_zero, drawMany]
  | succ few ih =>
    obtain ⟨more, rfl⟩ : ∃ more, many = more + 1 := ⟨many - 1, by omega⟩
    rw [drawMany, drawMany, List.take_succ_cons, ih (by omega)]

/-- All numbers drawn lie between the bounds. -/
theorem within_of_mem_drawMany (h : low ≤ high) {count : Nat} {g : σ}
    (hn : n ∈ drawMany low high count g) : Within low high n := by
  induction count generalizing g with
  | zero => cases hn
  | succ count ih =>
    rw [drawMany, List.mem_cons] at hn
    rcases hn with rfl | hn
    · exact within_drawWithin h 1024 g
    · exact ih hn

/-! ## As long as it takes -/

/-- A number is drawn: words are rejected, however many, until one stands for the number. -/
inductive Draws (low high : UInt64) : σ → UInt64 → σ → Prop where
  | accepted {g : σ} {n : UInt64} (haccept : accept? low high (WordSource.next g).1 = some n) :
      Draws low high g n (WordSource.next g).2
  | rejected {g g' : σ} {n : UInt64} (hreject : accept? low high (WordSource.next g).1 = none)
      (hrest : Draws low high (WordSource.next g).2 n g') : Draws low high g n g'

/-- Several numbers are drawn, one after the other. -/
inductive DrawsMany (low high : UInt64) : σ → List UInt64 → Prop where
  | nil (g : σ) : DrawsMany low high g []
  | cons {g g' : σ} {n : UInt64} {numbers : List UInt64} (hfirst : Draws low high g n g')
      (hrest : DrawsMany low high g' numbers) : DrawsMany low high g (n :: numbers)

theorem Draws.within (h : low ≤ high) (hdraws : Draws low high g n g') : Within low high n := by
  induction hdraws with
  | accepted haccept => exact within_of_accept? h haccept
  | rejected _ _ ih => exact ih

/-- However many words are rejected on the way, all numbers lie between the bounds. -/
theorem DrawsMany.within (h : low ≤ high) {numbers : List UInt64}
    (hdraws : DrawsMany low high g numbers) : ∀ n ∈ numbers, Within low high n := by
  induction hdraws with
  | nil => simp
  | cons hfirst _ ih => exact List.forall_mem_cons.2 ⟨hfirst.within h, ih⟩

/-- What a source gives next decides the number, and what is left of the source. -/
theorem Draws.unique {m : UInt64} {g₁ : σ} (hdraws : Draws low high g n g')
    (hother : Draws low high g m g₁) : n = m ∧ g' = g₁ := by
  induction hdraws with
  | accepted haccept =>
    cases hother with
    | accepted hagain => exact ⟨Option.some.inj (haccept.symm.trans hagain), rfl⟩
    | rejected hreject => cases haccept.symm.trans hreject
  | rejected hreject _ ih =>
    cases hother with
    | accepted haccept => cases haccept.symm.trans hreject
    | rejected _ hrest => exact ih hrest

theorem DrawsMany.unique {numbers others : List UInt64} (hdraws : DrawsMany low high g numbers)
    (hothers : DrawsMany low high g others) (hlength : numbers.length = others.length) :
    numbers = others := by
  induction hdraws generalizing others with
  | nil => exact (List.length_eq_zero_iff.1 hlength.symm).symm
  | cons hfirst _ ih =>
    cases hothers with
    | nil => cases hlength
    | cons hfirst' hrest' =>
      obtain ⟨rfl, rfl⟩ := hfirst.unique hfirst'
      rw [ih hrest' (Nat.succ.inj hlength)]

/-- A word of a source, counted from where it is read next. -/
def wordAt (g : σ) : Nat → UInt64
  | 0 => (WordSource.next g).1
  | i + 1 => wordAt (WordSource.next g).2 i

/-- What a source gives behind a number that was drawn, it gave behind some of its words. -/
theorem Draws.exists_wordAt (hdraws : Draws low high g n g') :
    ∃ read, ∀ i, wordAt g' i = wordAt g (read + i) := by
  induction hdraws with
  | accepted => exact ⟨1, fun i => by rw [Nat.add_comm, wordAt]⟩
  | rejected _ _ ih =>
    obtain ⟨read, hread⟩ := ih
    exact ⟨read + 1, fun i => by rw [hread, Nat.add_right_comm, wordAt]⟩

/-- Somewhere a source gives so many rejected words in a row that drawing gives up. -/
def Exhausts (low high : UInt64) (g : σ) : Prop :=
  ∃ start, ∀ i < 1024, accept? low high (wordAt g (start + i)) = none

/-- Either a number is drawn within the attempts, or all their words are rejected. -/
theorem draws_drawWithin (attempts : Nat) (g : σ) :
    (∃ n g', drawWithin low high attempts g = (n, g') ∧ Draws low high g n g') ∨
      ∀ i < attempts, accept? low high (wordAt g i) = none := by
  induction attempts generalizing g with
  | zero => exact .inr fun i hi => absurd hi (Nat.not_lt_zero i)
  | succ attempts ih =>
    rw [drawWithin]
    cases haccept : accept? low high (WordSource.next g).1 with
    | some n => exact .inl ⟨n, _, by simp only [haccept], .accepted haccept⟩
    | none =>
      simp only [haccept]
      refine (ih (WordSource.next g).2).imp ?_ ?_
      · rintro ⟨n, g', hdraw, hdraws⟩
        exact ⟨n, g', hdraw, .rejected haccept hdraws⟩
      · -- the word that was rejected now, and those that were rejected later
        intro hnone i hi
        cases i with
        | zero => exact haccept
        | succ i => exact hnone i (by omega)

theorem drawsMany_drawMany (count : Nat) (g : σ) :
    DrawsMany low high g (drawMany low high count g) ∨ Exhausts low high g := by
  induction count generalizing g with
  | zero => exact .inl (.nil g)
  | succ count ih =>
    rcases draws_drawWithin 1024 g with ⟨n, g', hdraw, hdraws⟩ | hnone
    · rw [drawMany, draw, hdraw]
      refine (ih g').imp (fun hrest => .cons hdraws hrest) ?_
      rintro ⟨start, hstart⟩
      -- rejected words behind the first number stand further back in the source itself
      obtain ⟨read, hread⟩ := hdraws.exists_wordAt
      refine ⟨read + start, fun i hi => ?_⟩
      rw [Nat.add_assoc, ← hread]
      exact hstart i hi
    · exact .inr ⟨0, by simpa using hnone⟩

/-- Unless the source makes drawing give up, the numbers are those that are drawn as long as it
takes. -/
theorem drawsMany_iff (hgoes : ¬ Exhausts low high g) (numbers : List UInt64) :
    DrawsMany low high g numbers ↔ numbers = drawMany low high numbers.length g := by
  have hmany := fun count => (drawsMany_drawMany count g).resolve_right hgoes
  constructor
  · intro hdraws
    exact hdraws.unique (hmany numbers.length) (length_drawMany low high numbers.length g).symm
  · intro heq
    rw [heq]
    exact hmany numbers.length

end TestRig.Random
