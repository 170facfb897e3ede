/-
  TestRig.Digest.Block

  What the two digests share: a message is padded to whole blocks of sixty-four
  bytes and read as words of thirty-two bits.
-/
import TestRig.Text.Utf8

namespace TestRig.Digest

/-- The order of the bytes of a word. -/
inductive ByteOrder where
  /-- The least significant byte comes first. -/
  | little
  /-- The most significant byte comes first. -/
  | big
  deriving DecidableEq

/-- The word of a list of bytes, the most significant one first. -/
def wordOfBig (bytes : Bytes) : UInt32 := bytes.foldl (fun w b => w <<< 8 ||| b.toUInt32) 0

/-- The word of a list of bytes in an order. -/
def ByteOrder.word (order : ByteOrder) (bytes : Bytes) : UInt32 :=
  match order with
  | .little => wordOfBig bytes.reverse
  | .big => wordOfBig bytes

/-- The lowest `count` bytes of a number in an order. -/
def ByteOrder.bytesOf (order : ByteOrder) (count n : Nat) : Bytes :=
  let low := (List.range count).map fun i => UInt8.ofNat (n / Nat.pow 256 i)
  match order with
  | .little => low
  | .big => low.reverse

/-- The end of a padded message of `size` bytes: a one bit, zeros up to eight bytes before the end
of a block, and the length in bits. -/
def padding (order : ByteOrder) (size : Nat) : Bytes :=
  0x80 :: List.replicate ((119 - size % 64) % 64) 0 ++ order.bytesOf 8 (size * 8)

/-- Turns the words of a message block by block into a state, with a step per block of sixteen
words.  The number says how many bytes of the current word and words of the current block have been
seen. -/
def foldBlocks {σ : Type} (order : ByteOrder) (step : σ → Array UInt32 → σ) (start : σ)
    (message : Bytes) : σ :=
  let feed := fun (acc : σ × Array UInt32 × Bytes) (b : UInt8) =>
    let (state, words, bytes) := acc
    match bytes with
    | [x, y, z] =>
      -- the fourth byte completes a word
      let words := words.push (order.word [z, y, x, b])
      if words.size = 16 then (step state words, #[], []) else (state, words, [])
    | _ => (state, words, b :: bytes)
  ((message ++ padding order message.length).foldl feed (start, #[], [])).1

end TestRig.Digest
