/-
  TestRig.Proofs.Machine.RandomSizes

  Sizes that are drawn lie between their bounds and are drawn evenly.  Each size of a range
  is the number of as many words as any other (`ncard_accept?`).  From whichever words they
  are drawn, the sizes of the files of a batch and the numbers of bytes that parts ask for
  lie within their range.
-/
import TestRig.Machine.Work
import TestRig.Proofs.Files.RandomSplit
import TestRig.Proofs.Random.Uniform

namespace TestRig.Machine

open Files (SizeRange PartSizing AsksWithin drawnRequests asksWithin_requests
  asksWithin_drawnRequests)
open TestRig.Random

variable {low high : UInt64}

/-- A batch of files of random sizes is a batch of the sizes that are drawn. -/
theorem createMany_eq {σ : Type} [WordSource σ] (h : low ≤ high) (m : Machine) (t : Templates)
    (count : Nat) (dir stem : String) (g : σ) :
    m.createMany t ⟨low, high⟩ count dir stem g =
      m.createSized t dir stem ((drawMany low high count g).map UInt64.toNat) := by
  have hcheck : SizeRange.check ⟨low, high⟩ = .ok () := by
    rw [SizeRange.check, if_neg (UInt64.not_lt.2 h)]
  rw [createMany, hcheck]

/-- Sizes are drawn evenly and within their range.  A word is rejected or stands for a number of the
range; each number of the range is that of as many words as any other, and at most half of all words
are rejected.  So the numbers drawn lie within the range, whatever a source of words gives and
however many of its words are rejected on the way.  `drawMany` draws these numbers unless it gives
up, and it never leaves the range; its numbers are the sizes of a batch of files.  Parts ask for
numbers of bytes between a tenth of the file and the whole of it, with the seeded generator and with
any other source. -/
theorem sizes_drawn_evenly (h : low ≤ high) :
    (∀ word, accept? low high word = none ∨
      ∃ n, accept? low high word = some n ∧ Within low high n) ∧
    0 < wordsEach low high ∧
    (∀ n, Within low high n →
      {word | accept? low high word = some n}.ncard = wordsEach low high) ∧
    2 ^ 63 ≤ {word | accept? low high word ≠ none}.ncard ∧
    (∀ {σ : Type} [WordSource σ] (g : σ),
      (∀ numbers, DrawsMany low high g numbers → ∀ n ∈ numbers, Within low high n) ∧
      (∀ numbers, ¬ Exhausts low high g →
        (DrawsMany low high g numbers ↔ numbers = drawMany low high numbers.length g)) ∧
      ∀ (m : Machine) (t : Templates) (count : Nat) (dir stem : String),
        let sizes := drawMany low high count g
        m.createMany t ⟨low, high⟩ count dir stem g =
          m.createSized t dir stem (sizes.map UInt64.toNat) ∧
        sizes.length = count ∧ ∀ n ∈ sizes, Within low high n) ∧
    ∀ total < 2 ^ 64, ∀ parts,
      AsksWithin total parts (PartSizing.random.requests total parts) ∧
      ∀ {σ : Type} [WordSource σ] (g : σ),
        AsksWithin total parts (drawnRequests total parts g) := by
  refine ⟨?_, wordsEach_pos low high, fun n hn => ncard_accept? h hn, half_le_ncard_accepted h, ?_,
    ?_⟩
  · intro word
    cases haccept : accept? low high word with
    | none => exact .inl rfl
    | some n => exact .inr ⟨n, rfl, within_of_accept? h haccept⟩
  · intro σ _ g
    refine ⟨fun numbers hdraws => hdraws.within h, fun numbers hgoes => drawsMany_iff hgoes numbers,
      ?_⟩
    intro m t count dir stem
    exact ⟨createMany_eq h m t count dir stem g, length_drawMany low high count g,
      fun n hn => within_of_mem_drawMany h hn⟩
  · intro total htotal parts
    exact ⟨asksWithin_requests htotal parts, fun g => asksWithin_drawnRequests htotal parts g⟩

/-- In the range of all words each word is a number, so that none is rejected. -/
theorem sizes_drawn_evenly_all_words :
    {word | accept? 0 18446744073709551615 word = some 7}.ncard = 1 ∧
    DrawsMany 0 18446744073709551615 (Generator.ofSeed 7)
      (drawMany 0 18446744073709551615 3 (Generator.ofSeed 7)) ∧
    (∀ n ∈ drawMany 0 18446744073709551615 3 (Generator.ofSeed 7),
      Within 0 18446744073709551615 n) ∧
    AsksWithin 1000 20 (PartSizing.random.requests 1000 20) := by
  have hle : (0 : UInt64) ≤ 18446744073709551615 := by decide
  obtain ⟨-, -, heven, -, hdrawn, hparts⟩ := sizes_drawn_evenly hle
  obtain ⟨hwithin, hsame, -⟩ := hdrawn (Generator.ofSeed 7)
  have hgoes : ¬ Exhausts 0 18446744073709551615 (Generator.ofSeed 7) := by
    rintro ⟨start, hnone⟩
    have hfirst := hnone 0 (by decide)
    rw [accept?, if_pos (by decide)] at hfirst
    cases hfirst
  have hdraws := (hsame (drawMany 0 18446744073709551615 3 (Generator.ofSeed 7)) hgoes).2
    (by rw [length_drawMany])
  exact ⟨heven 7 ⟨by decide, by decide⟩, hdraws, hwithin _ hdraws,
    (hparts 1000 (by decide) 20).1⟩

end TestRig.Machine
