/-
  TestRig.Proofs.Files.Volume

  The share of a volume that is in use.  Both byte counts are products that stop at the
  largest word (`toNat_boundedProduct`), each for itself.  While the bytes of the volume fit
  a word the block size cancels; beyond that the share is overstated, unless the volume is
  full or empty (`usage_exact_iff`).
-/
import Mathlib.Data.UInt
import Mathlib.Tactic.Ring
import TestRig.Files.Volume

namespace TestRig.Files

/-! ## Bounded arithmetic -/

/-- The largest number of sixty-four bits. -/
def largestWord : Nat := 2 ^ 64 - 1

theorem toNat_boundedProduct (a b : UInt64) :
    (boundedProduct a b).toNat = min (a.toNat * b.toNat) largestWord := by
  have hsize : UInt64.size = largestWord + 1 := rfl
  unfold boundedProduct
  split
  · rename_i hfits
    rw [UInt64.toNat_mul, Nat.mod_eq_of_lt hfits]
    omega
  · rw [UInt64.toNat_ofNat', hsize]
    have hword : (largestWord + 1 - 1) % 2 ^ 64 = largestWord := rfl
    omega

theorem toNat_boundedDifference (a b : UInt64) :
    (boundedDifference a b).toNat = a.toNat - b.toNat := by
  unfold boundedDifference
  split
  · rename_i hle
    exact UInt64.toNat_sub_of_le a b hle
  · rename_i hlt
    have hless : a.toNat < b.toNat := UInt64.lt_iff_toNat_lt.1 (UInt64.not_le.1 hlt)
    rw [Nat.sub_eq_zero_of_le (Nat.le_of_lt hless)]
    rfl

/-! ## Shares of bounded products -/

section
variable {part whole size limit : Nat}

/-- Bounded products keep the share of a part in the whole exactly if the product of the whole is
within the bound, or the part is nothing or all of it. -/
theorem bounded_share_iff (hle : part ≤ whole) (hwhole : 0 < whole) (hlimit : 0 < limit) :
    min (part * size) limit * whole = min (whole * size) limit * part ↔
      whole * size ≤ limit ∨ part = 0 ∨ part = whole := by
  have hproduct : part * size ≤ whole * size := Nat.mul_le_mul_right size hle
  rcases Nat.lt_or_ge limit (whole * size) with hbeyond | hwithin
  · rw [Nat.min_eq_right (Nat.le_of_lt hbeyond), or_iff_right (Nat.not_le.2 hbeyond)]
    rcases Nat.lt_or_ge limit (part * size) with hboth | hone
    · -- both products are cut off, so the share is that of the whole
      rw [Nat.min_eq_right (Nat.le_of_lt hboth)]
      have hsome : part ≠ 0 := by
        rintro rfl
        rw [Nat.zero_mul] at hboth
        omega
      rw [Nat.mul_right_inj (Nat.ne_of_gt hlimit), or_iff_right hsome]
      exact eq_comm
    · -- the whole alone is cut off
      rw [Nat.min_eq_left hone]
      have hexact : part * size * whole = whole * size * part := by ring
      rw [hexact]
      constructor
      · intro h
        rcases Nat.eq_zero_or_pos part with hzero | hpos
        · exact .inl hzero
        · exact absurd (Nat.eq_of_mul_eq_mul_right hpos h) (Nat.ne_of_gt hbeyond)
      · rintro (rfl | rfl)
        · rw [Nat.mul_zero, Nat.mul_zero]
        · omega
  · rw [Nat.min_eq_left hwithin, Nat.min_eq_left (Nat.le_trans hproduct hwithin)]
    have hexact : part * size * whole = whole * size * part := by ring
    exact iff_of_true hexact (.inl hwithin)

/-- They never understate it. -/
theorem bounded_share_le (hle : part ≤ whole) :
    min (whole * size) limit * part ≤ min (part * size) limit * whole := by
  have hexact : whole * size * part = part * size * whole := by ring
  rcases Nat.le_total (part * size) limit with hone | hboth
  · rw [Nat.min_eq_left hone, ← hexact]
    exact Nat.mul_le_mul_right part (Nat.min_le_left _ _)
  · rw [Nat.min_eq_right hboth]
    exact Nat.mul_le_mul (Nat.min_le_right _ _) hle

end

/-! ## The share in use -/

namespace Volume

variable {v : Volume}

theorem toNat_totalBytes (v : Volume) :
    v.totalBytes.toNat = min (v.blocks.toNat * v.blockSize.toNat) largestWord :=
  toNat_boundedProduct v.blocks v.blockSize

theorem toNat_usedBytes (v : Volume) :
    v.usedBytes.toNat = min ((v.blocks.toNat - v.free.toNat) * v.blockSize.toNat) largestWord := by
  rw [usedBytes, toNat_boundedProduct, toNat_boundedDifference]

/-- The reported usage of a volume with blocks is that of two byte counts, of which the first is at
most the second.  Their ratio is that of the blocks in use to all blocks exactly if the bytes of the
volume fit a word, or no block or every block is free; otherwise it is larger. -/
theorem usage_exact_iff (hblocks : 0 < v.blocks) (hsize : 0 < v.blockSize) :
    v.usage = Decimal.fixed 1 (percent v.usedBytes.toFloat v.totalBytes.toFloat) ∧
    0 < v.totalBytes.toNat ∧
    v.usedBytes.toNat ≤ v.totalBytes.toNat ∧
    (v.usedBytes.toNat * v.blocks.toNat = v.totalBytes.toNat * (v.blocks.toNat - v.free.toNat) ↔
      v.blocks.toNat * v.blockSize.toNat < 2 ^ 64 ∨ v.free = 0 ∨ v.blocks ≤ v.free) ∧
    v.totalBytes.toNat * (v.blocks.toNat - v.free.toNat) ≤
      v.usedBytes.toNat * v.blocks.toNat := by
  have hwhole : 0 < v.blocks.toNat := UInt64.lt_iff_toNat_lt.1 hblocks
  have hbytes : 0 < v.blockSize.toNat := UInt64.lt_iff_toNat_lt.1 hsize
  have hlimit : 0 < largestWord := by decide
  have hused : v.blocks.toNat - v.free.toNat ≤ v.blocks.toNat := Nat.sub_le _ _
  have htotal : 0 < v.totalBytes.toNat := by
    rw [toNat_totalBytes]
    exact Nat.lt_min.2 ⟨Nat.mul_pos hwhole hbytes, hlimit⟩
  refine ⟨?_, htotal, ?_, ?_, ?_⟩
  · have hsome : v.totalBytes ≠ 0 := by
      intro hzero
      rw [hzero] at htotal
      exact absurd htotal (by decide)
    rw [usage, if_neg hsome]
  · rw [toNat_totalBytes, toNat_usedBytes]
    exact min_le_min_right largestWord (Nat.mul_le_mul_right _ hused)
  · rw [toNat_totalBytes, toNat_usedBytes, bounded_share_iff hused hwhole hlimit]
    have hfits : v.blocks.toNat * v.blockSize.toNat ≤ largestWord ↔
        v.blocks.toNat * v.blockSize.toNat < 2 ^ 64 := Nat.le_sub_one_iff_lt (by decide)
    have hall : v.blocks.toNat - v.free.toNat = v.blocks.toNat ↔ v.free = 0 := by
      rw [← UInt64.toNat_inj]
      change _ ↔ v.free.toNat = 0
      omega
    have hnone : v.blocks.toNat - v.free.toNat = 0 ↔ v.blocks ≤ v.free := by
      rw [UInt64.le_iff_toNat_le]
      omega
    rw [hfits, hall, hnone, or_comm (a := v.blocks ≤ v.free)]
  · rw [toNat_totalBytes, toNat_usedBytes]
    exact bounded_share_le hused

/-- A volume of almost as many bytes as a word counts, half of it free. -/
theorem usage_exact_iff_largest_volume :
    (⟨2 ^ 52 - 1, 4096, 2 ^ 51⟩ : Volume).usedBytes.toNat * (2 ^ 52 - 1) =
      (⟨2 ^ 52 - 1, 4096, 2 ^ 51⟩ : Volume).totalBytes.toNat * (2 ^ 51 - 1) :=
  ((usage_exact_iff (v := ⟨2 ^ 52 - 1, 4096, 2 ^ 51⟩) (by decide) (by decide)).2.2.2.1).2
    (.inl (by decide))

/-- Of a volume of twice as many bytes, half of it free, both counts are cut off, and all of it seems
to be in use. -/
theorem half_free_counted_as_full :
    (⟨2 ^ 53, 4096, 2 ^ 52⟩ : Volume).usedBytes = (⟨2 ^ 53, 4096, 2 ^ 52⟩ : Volume).totalBytes ∧
    (⟨2 ^ 53, 4096, 2 ^ 52⟩ : Volume).usedBytes.toNat * 2 ^ 53 ≠
      (⟨2 ^ 53, 4096, 2 ^ 52⟩ : Volume).totalBytes.toNat * (2 ^ 53 - 2 ^ 52) := by
  decide

end Volume

end TestRig.Files
