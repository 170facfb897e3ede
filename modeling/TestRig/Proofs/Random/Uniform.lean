/-
  TestRig.Proofs.Random.Uniform

  Every number of a range is drawn from the same number of words.

  The word `w` is accepted for the distance `d` from the lower bound exactly if its product
  with the size `s` of the range lies in a window, `d * 2^64 ≤ w * s < d * 2^64 + windowWidth s`.
  The windows of all distances have the same width, a multiple of the size:

    * `multiple_mem_window_iff`: a window as wide as `count` sizes holds the multiples of
      `count` consecutive numbers, wherever it begins;
    * `windowWidth_le`: a window ends before the next one begins, so that each of these
      numbers is a word;
    * `half_le_windowWidth`: the windows take up half of all products or more, so that at
      most half of all words are rejected.
-/
import Mathlib.Algebra.BigOperators.Group.Finset.Basic
import Mathlib.Algebra.Order.Floor.Div
import Mathlib.Data.FinEnum
import Mathlib.Data.Set.Card
import Mathlib.Data.UInt
import Mathlib.Order.Interval.Finset.Nat
import TestRig.Proofs.Random.Range

namespace TestRig.Random

/-! ## Multiples in a window -/

section
variable {size : Nat}

/-- The multiples of a size in a window `count` sizes wide are those of `count` consecutive numbers,
from the first one on that does not lie below the window. -/
theorem multiple_mem_window_iff (hsize : 0 < size) (start count w : Nat) :
    start ≤ w * size ∧ w * size < start + count * size ↔
      w ∈ Finset.Ico (start ⌈/⌉ size) (start ⌈/⌉ size + count) := by
  have hbelow : ∀ v, start ⌈/⌉ size ≤ v ↔ start ≤ v * size := by
    intro v
    rw [ceilDiv_le_iff_le_mul hsize, Nat.mul_comm]
  have habove : w * size < start + count * size ↔ w < start ⌈/⌉ size + count := by
    rcases Nat.lt_or_ge w count with hfew | hmany
    · have hmul : w * size < count * size := Nat.mul_lt_mul_of_pos_right hfew hsize
      exact iff_of_true (by omega) (by omega)
    · -- `count` sizes less, the question is whether the window has begun
      obtain ⟨v, rfl⟩ := Nat.exists_eq_add_of_le hmany
      have hbegun := hbelow v
      rw [Nat.add_mul]
      omega
  rw [Finset.mem_Ico, hbelow, habove]

/-- The width of a window: the largest size times a power of two that is at most `2^64`. -/
def windowWidth (size : Nat) : Nat := 2 ^ (63 - size.log2) * size

theorem windowWidth_pos (hsize : 0 < size) : 0 < windowWidth size :=
  Nat.mul_pos (Nat.two_pow_pos _) hsize

theorem windowWidth_le (hpos : 0 < size) (hword : size < 2 ^ 64) : windowWidth size ≤ 2 ^ 64 := by
  have hlog : size.log2 < 64 := (Nat.log2_lt (Nat.ne_of_gt hpos)).2 hword
  have hsize : size ≤ 2 ^ (size.log2 + 1) := Nat.le_of_lt Nat.lt_log2_self
  calc 2 ^ (63 - size.log2) * size
      ≤ 2 ^ (63 - size.log2) * 2 ^ (size.log2 + 1) := Nat.mul_le_mul_left _ hsize
    _ = 2 ^ 64 := by
        rw [← Nat.pow_add]
        congr 1
        omega

/-- A window takes up at least half of the low halves. -/
theorem half_le_windowWidth (hsize : 0 < size) (hword : size < 2 ^ 64) :
    2 ^ 63 ≤ windowWidth size := by
  have hsome : size ≠ 0 := Nat.ne_of_gt hsize
  have hlog : size.log2 < 64 := (Nat.log2_lt hsome).2 hword
  calc 2 ^ 63 = 2 ^ (63 - size.log2) * 2 ^ size.log2 := by
        rw [← Nat.pow_add]
        congr 1
        omega
    _ ≤ 2 ^ (63 - size.log2) * size := Nat.mul_le_mul_left _ (Nat.log2_self_le hsome)

/-- A low half is within the zone if it is less than the width of a window. -/
theorem le_rejectionZone_iff (hsize : 0 < size) (low : Nat) :
    low ≤ rejectionZone size ↔ low < windowWidth size := by
  have hpos := windowWidth_pos hsize
  have hzone : rejectionZone size = windowWidth size - 1 := by
    rw [rejectionZone, windowWidth, Nat.mul_comm]
    rfl
  omega

end

/-! ## Accepted words -/

section
variable {low high word n : UInt64}

theorem rangeSize_lt (low high : UInt64) : rangeSize low high < 2 ^ 64 :=
  (high - low + 1).toNat_lt

/-- A number is in the range if its distance from the lower bound is less than the size. -/
theorem toNat_sub_lt_rangeSize (h : low ≤ high) (hsize : rangeSize low high ≠ 0)
    (hn : Within low high n) : (n - low).toNat < rangeSize low high := by
  have hlow := UInt64.le_iff_toNat_le.1 hn.1
  have hhigh := UInt64.le_iff_toNat_le.1 hn.2
  have hword := high.toNat_lt
  rw [UInt64.toNat_sub_of_le _ _ hn.1]
  rw [rangeSize_of_le h] at hsize ⊢
  omega

theorem add_ofNat_eq_iff {distance : Nat} (hdistance : distance < 2 ^ 64) :
    low + UInt64.ofNat distance = n ↔ distance = (n - low).toNat := by
  rw [← eq_sub_iff_add_eq', ← UInt64.toNat_inj, UInt64.toNat_ofNat_of_lt' hdistance]

/-- A word stands for a number exactly if its product with the size of the range lies in the window
of the number's distance. -/
theorem accept?_eq_some_iff (hsize : rangeSize low high ≠ 0) :
    accept? low high word = some n ↔
      (n - low).toNat * 2 ^ 64 ≤ word.toNat * rangeSize low high ∧
      word.toNat * rangeSize low high <
        (n - low).toNat * 2 ^ 64 + windowWidth (rangeSize low high) := by
  have hpos : 0 < rangeSize low high := Nat.pos_of_ne_zero hsize
  have hwidth := windowWidth_le hpos (rangeSize_lt low high)
  have hquotient : word.toNat * rangeSize low high / 2 ^ 64 < 2 ^ 64 :=
    Nat.lt_trans (distance_lt word hpos) (rangeSize_lt low high)
  have hnumber : low + UInt64.ofNat (word.toNat * rangeSize low high / 2 ^ 64) = n ↔
      word.toNat * rangeSize low high / 2 ^ 64 = (n - low).toNat := add_ofNat_eq_iff hquotient
  rw [accept?, if_neg hsize]
  simp only [le_rejectionZone_iff hpos]
  change (if word.toNat * rangeSize low high % 2 ^ 64 < windowWidth (rangeSize low high) then
    some (low + UInt64.ofNat (word.toNat * rangeSize low high / 2 ^ 64)) else none) = some n ↔ _
  -- quotient and remainder say where the product lies, since no window is wider than `2^64`
  generalize word.toNat * rangeSize low high = product at *
  split
  · rw [Option.some_inj, hnumber]
    omega
  · refine iff_of_false (by simp) ?_
    omega

/-! ## The words of a number -/

/-- How many words stand for each number of a range. -/
def wordsEach (low high : UInt64) : Nat :=
  if rangeSize low high = 0 then 1 else 2 ^ (63 - (rangeSize low high).log2)

-- of three numbers each has a quarter of all words, and a quarter is rejected
example : wordsEach 3 5 = 2 ^ 62 ∧ accept? 3 5 18446744073709551615 = none := by decide

theorem wordsEach_pos (low high : UInt64) : 0 < wordsEach low high := by
  rw [wordsEach]
  split
  · decide
  · exact Nat.two_pow_pos _

theorem ncard_image_toNat (words : Set UInt64) : (UInt64.toNat '' words).ncard = words.ncard :=
  Set.ncard_image_of_injective words fun _ _ => UInt64.toNat_inj.1

/-- As numbers, the words that stand for a number of the range are consecutive. -/
theorem image_toNat_accept? (h : low ≤ high) (hsize : rangeSize low high ≠ 0)
    (hn : Within low high n) :
    let first := (n - low).toNat * 2 ^ 64 ⌈/⌉ rangeSize low high
    UInt64.toNat '' {word | accept? low high word = some n} =
      Finset.Ico first (first + 2 ^ (63 - (rangeSize low high).log2)) := by
  intro first
  have hpos : 0 < rangeSize low high := Nat.pos_of_ne_zero hsize
  have hwidth := windowWidth_le hpos (rangeSize_lt low high)
  have hdistance := toNat_sub_lt_rangeSize h hsize hn
  ext w
  rw [Finset.mem_coe, ← multiple_mem_window_iff hpos]
  constructor
  · rintro ⟨word, hword, rfl⟩
    exact (accept?_eq_some_iff hsize).1 hword
  · rintro ⟨hstart, hend⟩
    -- the window ends within the products of words, so that the factor is one
    have hlast : ((n - low).toNat + 1) * 2 ^ 64 ≤ rangeSize low high * 2 ^ 64 :=
      Nat.mul_le_mul_right _ hdistance
    have hproduct : w * rangeSize low high < 2 ^ 64 * rangeSize low high := by
      rw [windowWidth] at hwidth
      omega
    have hw : w < 2 ^ 64 := Nat.lt_of_mul_lt_mul_right hproduct
    have hword : (UInt64.ofNat w).toNat = w := UInt64.toNat_ofNat_of_lt' hw
    refine ⟨UInt64.ofNat w, (accept?_eq_some_iff hsize).2 ?_, hword⟩
    rw [hword]
    exact ⟨hstart, hend⟩

/-- Each number of the range is drawn from the same number of words. -/
theorem ncard_accept? (h : low ≤ high) (hn : Within low high n) :
    {word | accept? low high word = some n}.ncard = wordsEach low high := by
  rw [wordsEach]
  split
  · -- every word is a number of the full range
    rename_i hsize
    have hself : {word | accept? low high word = some n} = {n} := by
      ext word
      simp [accept?, hsize]
    rw [hself, Set.ncard_singleton]
  · rename_i hsize
    rw [← ncard_image_toNat, image_toNat_accept? h hsize hn, Set.ncard_coe_finset, Nat.card_Ico,
      Nat.add_sub_cancel_left]

/-! ## All accepted words -/

theorem ncard_within (h : low ≤ high) :
    {n | Within low high n}.ncard = high.toNat - low.toNat + 1 := by
  have himage : UInt64.toNat '' {n | Within low high n} = Finset.Icc low.toNat high.toNat := by
    ext m
    rw [Finset.mem_coe, Finset.mem_Icc]
    constructor
    · rintro ⟨n, ⟨hlow, hhigh⟩, rfl⟩
      exact ⟨UInt64.le_iff_toNat_le.1 hlow, UInt64.le_iff_toNat_le.1 hhigh⟩
    · rintro ⟨hlow, hhigh⟩
      have hm : (UInt64.ofNat m).toNat = m :=
        UInt64.toNat_ofNat_of_lt' (Nat.lt_of_le_of_lt hhigh high.toNat_lt)
      refine ⟨UInt64.ofNat m, ⟨?_, ?_⟩, hm⟩ <;> rwa [UInt64.le_iff_toNat_le, hm]
  have hle := UInt64.le_iff_toNat_le.1 h
  rw [← ncard_image_toNat, himage, Set.ncard_coe_finset, Nat.card_Icc]
  omega

/-- The accepted words are those of all numbers of the range. -/
theorem ncard_accepted (h : low ≤ high) :
    {word | accept? low high word ≠ none}.ncard =
      (high.toNat - low.toNat + 1) * wordsEach low high := by
  classical
  have hmaps : Set.MapsTo (accept? low high)
      ({word | accept? low high word ≠ none} : Finset UInt64)
      (({n | Within low high n} : Finset UInt64).map .some) := by
    intro word hword
    obtain ⟨n, haccept⟩ := Option.ne_none_iff_exists'.1 ((Finset.mem_filter_univ word).1 hword)
    simpa [haccept] using within_of_accept? h haccept
  have heach : ∀ n ∈ ({n | Within low high n} : Finset UInt64),
      Finset.card {word ∈ ({word | accept? low high word ≠ none} : Finset UInt64) |
        accept? low high word = some n} = wordsEach low high := by
    intro n hn
    rw [← ncard_accept? h ((Finset.mem_filter_univ n).1 hn), ← Set.ncard_coe_finset]
    congr 1
    ext word
    simp +contextual
  rw [← ncard_within h, Set.ncard_eq_toFinset_card', Set.ncard_eq_toFinset_card',
    Set.toFinset_ofPred, Set.toFinset_ofPred, Finset.card_eq_sum_card_fiberwise hmaps,
    Finset.sum_map]
  exact Finset.sum_const_nat heach

/-- At least half of all words are accepted. -/
theorem half_le_ncard_accepted (h : low ≤ high) :
    2 ^ 63 ≤ {word | accept? low high word ≠ none}.ncard := by
  have hhigh := high.toNat_lt
  have hsize := rangeSize_of_le h
  rw [ncard_accepted h, wordsEach]
  split
  · omega
  · rename_i hsome
    have hcount : high.toNat - low.toNat + 1 = rangeSize low high := by omega
    rw [hcount, Nat.mul_comm]
    exact half_le_windowWidth (Nat.pos_of_ne_zero hsome) (rangeSize_lt low high)

end

end TestRig.Random
