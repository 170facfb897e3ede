/-
  TestRig.Random.Range

  Random numbers from an inclusive range, each as likely as any other.  A random
  word is multiplied by the size of the range; the high half of the product is the
  distance from the lower bound.  Words whose low half lies beyond a limit are
  rejected, and the limit is chosen so that every distance keeps the same number of
  words.
-/
import TestRig.Random.ChaCha

namespace TestRig.Random

/-- How many numbers the range from `low` to `high` holds, modulo `2^64`: zero stands for all. -/
def rangeSize (low high : UInt64) : Nat := (high - low + 1).toNat

/-- The largest low half of an accepted product: the largest `size * 2^k` below `2^64`, less one. -/
def rejectionZone (size : Nat) : Nat := size * Nat.pow 2 (63 - size.log2) - 1

/-- The number that a random word stands for, or `none` when the word is rejected. -/
def accept? (low high word : UInt64) : Option UInt64 :=
  let size := rangeSize low high
  -- all words are numbers of the full range
  if size = 0 then some word
  else
    let product := word.toNat * size
    if product % UInt64.size ≤ rejectionZone size then
      some (low + UInt64.ofNat (product / UInt64.size))
    else none

/-- Something that gives one random word after another. -/
class WordSource (σ : Type) where
  /-- The next word, and what gives the words behind it. -/
  next : σ → UInt64 × σ

instance : WordSource Generator := ⟨Generator.next⟩

variable {σ : Type} [WordSource σ]

/-- Draws words until one is accepted, at most as many as are given; should all be rejected, the
lower bound is the number. -/
def drawWithin (low high : UInt64) : Nat → σ → UInt64 × σ
  | 0, g => (low, g)
  | attempts + 1, g =>
    let (word, g) := WordSource.next g
    match accept? low high word with
    | some n => (n, g)
    | none => drawWithin low high attempts g

/-- Draws a number between two bounds.  At least half of all words are accepted, so that a
thousand and more rejections in a row are not to be expected. -/
def draw (low high : UInt64) (g : σ) : UInt64 × σ := drawWithin low high 1024 g

/-- Draws several numbers between two bounds, one after the other. -/
def drawMany (low high : UInt64) : Nat → σ → List UInt64
  | 0, _ => []
  | count + 1, g =>
    let (n, g) := draw low high g
    n :: drawMany low high count g

end TestRig.Random
