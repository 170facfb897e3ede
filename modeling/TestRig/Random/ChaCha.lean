/-
  TestRig.Random.ChaCha

  Reproducible random words: the key stream of the ChaCha cipher with eight rounds,
  under a key that a 64-bit seed spreads out.  The stream is endless and its words
  are numbered, so a generator is a key and a position.
-/
import TestRig.Word

namespace TestRig.Random

open Word (rotateLeft rotateRight)

/-! ## The key stream -/

/-- Stirs four of the sixteen words. -/
def quarterRound (s : Array UInt32) (ia ib ic id : Nat) : Array UInt32 :=
  let a := s.getD ia 0
  let b := s.getD ib 0
  let c := s.getD ic 0
  let d := s.getD id 0
  let a := a + b
  let d := rotateLeft (d ^^^ a) 16
  let c := c + d
  let b := rotateLeft (b ^^^ c) 12
  let a := a + b
  let d := rotateLeft (d ^^^ a) 8
  let c := c + d
  let b := rotateLeft (b ^^^ c) 7
  (((s.setIfInBounds ia a).setIfInBounds ib b).setIfInBounds ic c).setIfInBounds id d

/-- A round on the columns and a round on the diagonals. -/
def doubleRound (s : Array UInt32) : Array UInt32 :=
  let columns := [(0, 4, 8, 12), (1, 5, 9, 13), (2, 6, 10, 14), (3, 7, 11, 15)]
  let diagonals := [(0, 5, 10, 15), (1, 6, 11, 12), (2, 7, 8, 13), (3, 4, 9, 14)]
  (columns ++ diagonals).foldl (fun s (a, b, c, d) => quarterRound s a b c d) s

/-- A key of eight words. -/
abbrev Key := List UInt32

/-- The sixteen words in front of block `n`: four constants, the key, the number of the block in
two words, and a stream number of zero. -/
def blockInput (key : Key) (n : Nat) : Array UInt32 :=
  ([0x61707865, 0x3320646e, 0x79622d32, 0x6b206574] ++ key ++
    [UInt32.ofNat n, UInt32.ofNat (n / UInt32.size), 0, 0]).toArray

/-- The sixteen words of block `n`. -/
def block (key : Key) (n : Nat) : Array UInt32 :=
  let input := blockInput key n
  let stirred := (List.range 4).foldl (fun s _ => doubleRound s) input
  Array.zipWith (· + ·) stirred input

/-- Word `i` of the stream. -/
def streamWord (key : Key) (i : Nat) : UInt32 := (block key (i / 16)).getD (i % 16) 0

/-! ## Generators -/

/-- Where a stream is read next. -/
structure Generator where
  key : Key
  position : Nat
  deriving DecidableEq

namespace Generator

/-- One step of the spreading of a seed. -/
def spread (seed : UInt64) : UInt64 := seed * 6364136223846793005 + 11634580027462260723

/-- The key word of a spread seed. -/
def keyWord (s : UInt64) : UInt32 :=
  rotateRight ((s >>> 18 ^^^ s) >>> 27).toUInt32 (s >>> 59).toUInt32

/-- The words of a key, each of the seed spread once more. -/
def keyOfSeed : Nat → UInt64 → Key
  | 0, _ => []
  | n + 1, seed => keyWord (spread seed) :: keyOfSeed n (spread seed)

/-- The generator of a seed. -/
def ofSeed (seed : UInt64) : Generator := ⟨keyOfSeed 8 seed, 0⟩

/-- The next number of sixty-four bits, from two words of which the low one comes first. -/
def next (g : Generator) : UInt64 × Generator :=
  let low := streamWord g.key g.position
  let high := streamWord g.key (g.position + 1)
  (high.toUInt64 <<< 32 ||| low.toUInt64, { g with position := g.position + 2 })

end Generator

end TestRig.Random
