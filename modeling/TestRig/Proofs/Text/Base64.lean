/-
  TestRig.Proofs.Text.Base64

  Reading base64 accepts exactly what writing it produces (`decode?_eq_some_iff`), so each
  sequence of bytes has one written form.  What is written are the bits of the bytes, six
  at a time, filled up with zeros and padded to a multiple of four characters
  (`encodeChars_eq_sextets`).
-/
import Mathlib.Tactic.SplitIfs
import TestRig.Text.Base64

namespace TestRig.Text.Base64

/-! ## Digits -/

/-- The characters of the digits, by their values. -/
def alphabet : List Char :=
  "ABCDEFGHIJKLMNOPQRSTUVWXYZabcdefghijklmnopqrstuvwxyz0123456789+/".toList

theorem alphabet_eq : alphabet = (List.range 64).map digit := by decide

theorem value?_digit : ∀ n < 64, value? (digit n) = some n := by decide

theorem digit_ne_pad : ∀ n < 64, digit n ≠ '=' := by decide

/-- A character of a row that begins with `low`, found by its distance from the beginning. -/
theorem ofNat_add_sub {low c : Char} (h : low ≤ c) :
    Char.ofNat (low.toNat + (c.toNat - low.toNat)) = c := by
  have hle : low.toNat ≤ c.toNat := h
  rw [Nat.add_sub_cancel' hle, Char.ofNat_toNat]

/-- Only the digit of a value has this value. -/
theorem eq_digit_of_value? {c : Char} {n : Nat} (h : value? c = some n) : n < 64 ∧ c = digit n := by
  have hA : 'A'.toNat = 65 := rfl
  have ha : 'a'.toNat = 97 := rfl
  have h0 : '0'.toNat = 48 := rfl
  unfold value? at h
  split_ifs at h with hupper hlower hdecimal hplus hslash
  · obtain rfl := Option.some.inj h
    have hhigh : c.toNat ≤ 90 := hupper.2
    refine ⟨by omega, ?_⟩
    rw [digit, if_pos (by omega), ofNat_add_sub hupper.1]
  · obtain rfl := Option.some.inj h
    have hhigh : c.toNat ≤ 122 := hlower.2
    refine ⟨by omega, ?_⟩
    rw [digit, if_neg (by omega), if_pos (by omega), Nat.add_sub_cancel, ofNat_add_sub hlower.1]
  · obtain rfl := Option.some.inj h
    have hhigh : c.toNat ≤ 57 := hdecimal.2
    refine ⟨by omega, ?_⟩
    rw [digit, if_neg (by omega), if_neg (by omega), if_pos (by omega), Nat.add_sub_cancel,
      ofNat_add_sub hdecimal.1]
  · obtain rfl := Option.some.inj h
    exact ⟨by decide, hplus⟩
  · obtain rfl := Option.some.inj h
    exact ⟨by decide, hslash⟩

/-! ## Bytes in digits

A byte is spread over two neighbouring digits.  In each of the lemmas `p` stands for what the byte
in front left over for the first of them, and `q` for what the byte behind adds to the second. -/

theorem join_first (a : UInt8) {q : Nat} (hq : q < 16) :
    UInt8.ofNat (a.toNat / 4 * 4 + (a.toNat % 4 * 16 + q) / 16) = a := by
  have hjoin : a.toNat / 4 * 4 + (a.toNat % 4 * 16 + q) / 16 = a.toNat := by omega
  rw [hjoin, UInt8.ofNat_toNat]

theorem join_second (b : UInt8) {p q : Nat} (hq : q < 4) :
    UInt8.ofNat ((p * 16 + b.toNat / 16) % 16 * 16 + (b.toNat % 16 * 4 + q) / 4) = b := by
  have hb : b.toNat < 256 := b.toNat_lt
  have hjoin : (p * 16 + b.toNat / 16) % 16 * 16 + (b.toNat % 16 * 4 + q) / 4 = b.toNat := by
    omega
  rw [hjoin, UInt8.ofNat_toNat]

theorem join_third (c : UInt8) {p : Nat} :
    UInt8.ofNat ((p * 4 + c.toNat / 64) % 4 * 64 + c.toNat % 64) = c := by
  have hc : c.toNat < 256 := c.toNat_lt
  have hjoin : (p * 4 + c.toNat / 64) % 4 * 64 + c.toNat % 64 = c.toNat := by omega
  rw [hjoin, UInt8.ofNat_toNat]

theorem toNat_first {x y : Nat} (hx : x < 64) (hy : y < 64) :
    (UInt8.ofNat (x * 4 + y / 16)).toNat = x * 4 + y / 16 := by
  rw [UInt8.toNat_ofNat', Nat.mod_eq_of_lt (by omega)]

theorem toNat_second {y z : Nat} (hz : z < 64) :
    (UInt8.ofNat (y % 16 * 16 + z / 4)).toNat = y % 16 * 16 + z / 4 := by
  rw [UInt8.toNat_ofNat', Nat.mod_eq_of_lt (by omega)]

theorem toNat_third {z w : Nat} (hw : w < 64) :
    (UInt8.ofNat (z % 4 * 64 + w)).toNat = z % 4 * 64 + w := by
  rw [UInt8.toNat_ofNat', Nat.mod_eq_of_lt (by omega)]

/-! Each digit is found again in the bytes over which it is spread. -/

theorem split_first {x y : Nat} (hx : x < 64) (hy : y < 64) :
    (UInt8.ofNat (x * 4 + y / 16)).toNat / 4 = x := by
  rw [toNat_first hx hy]
  omega

theorem split_second {x y z : Nat} (hx : x < 64) (hy : y < 64) (hz : z < 64) :
    (UInt8.ofNat (x * 4 + y / 16)).toNat % 4 * 16 +
      (UInt8.ofNat (y % 16 * 16 + z / 4)).toNat / 16 = y := by
  rw [toNat_first hx hy, toNat_second hz]
  omega

theorem split_third {y z w : Nat} (hz : z < 64) (hw : w < 64) :
    (UInt8.ofNat (y % 16 * 16 + z / 4)).toNat % 16 * 4 +
      (UInt8.ofNat (z % 4 * 64 + w)).toNat / 64 = z := by
  rw [toNat_second hz, toNat_third hw]
  omega

theorem split_fourth {z w : Nat} (hw : w < 64) :
    (UInt8.ofNat (z % 4 * 64 + w)).toNat % 64 = w := by
  rw [toNat_third hw]
  omega

/-! ## Reading what was written -/

theorem decode?_digits_two {x y : Nat} (hx : x < 64) (hy : y < 64) (hzero : y % 16 = 0) :
    decode? [digit x, digit y, '=', '='] = some [UInt8.ofNat (x * 4 + y / 16)] := by
  rw [decode?, value?_digit x hx, value?_digit y hy]
  simp only [Option.bind_eq_bind, Option.bind_some, hzero, if_true]

theorem decode?_digits_three {x y z : Nat} (hx : x < 64) (hy : y < 64) (hz : z < 64)
    (hzero : z % 4 = 0) :
    decode? [digit x, digit y, digit z, '='] =
      some [UInt8.ofNat (x * 4 + y / 16), UInt8.ofNat (y % 16 * 16 + z / 4)] := by
  rw [decode?.eq_3 _ _ _ (digit_ne_pad z hz), value?_digit x hx, value?_digit y hy,
    value?_digit z hz]
  simp only [Option.bind_eq_bind, Option.bind_some, hzero, if_true]

/-- The digits of a full group are three bytes in front of the others. -/
theorem decode?_digits_four {x y z w : Nat} (hx : x < 64) (hy : y < 64) (hz : z < 64)
    (hw : w < 64) (rest : List Char) :
    decode? (digit x :: digit y :: digit z :: digit w :: rest) =
      (decode? rest).map fun more => UInt8.ofNat (x * 4 + y / 16) ::
        UInt8.ofNat (y % 16 * 16 + z / 4) :: UInt8.ofNat (z % 4 * 64 + w) :: more := by
  -- the last digit is no padding, so this is neither of the short groups
  have hpad : digit w ≠ '=' := digit_ne_pad w hw
  rw [decode?.eq_4 _ _ _ _ _ (fun _ h _ => hpad h) (fun h _ => hpad h), value?_digit x hx,
    value?_digit y hy, value?_digit z hz, value?_digit w hw]
  cases decode? rest <;> rfl

/-- What is written is read back. -/
theorem decode?_encodeChars (bytes : Bytes) : decode? (encodeChars bytes) = some bytes := by
  -- by groups of three bytes, as they are written
  induction bytes using encodeChars.induct with
  | case1 => rfl
  | case2 a =>
    have ha : a.toNat < 256 := a.toNat_lt
    have hbyte : UInt8.ofNat (a.toNat / 4 * 4 + a.toNat % 4 * 16 / 16) = a :=
      join_first a (Nat.zero_lt_succ 15)
    rw [encodeChars, decode?_digits_two (by omega) (by omega) (by omega), hbyte]
  | case3 a b =>
    have ha : a.toNat < 256 := a.toNat_lt
    have hb : b.toNat < 256 := b.toNat_lt
    have hsecond : UInt8.ofNat ((a.toNat % 4 * 16 + b.toNat / 16) % 16 * 16 +
        b.toNat % 16 * 4 / 4) = b := join_second b (Nat.zero_lt_succ 3)
    rw [encodeChars, decode?_digits_three (by omega) (by omega) (by omega) (by omega),
      join_first a (by omega), hsecond]
  | case4 a b c rest ih =>
    have ha : a.toNat < 256 := a.toNat_lt
    have hb : b.toNat < 256 := b.toNat_lt
    have hc : c.toNat < 256 := c.toNat_lt
    rw [encodeChars, decode?_digits_four (by omega) (by omega) (by omega) (by omega), ih,
      Option.map_some, join_first a (by omega), join_second b (by omega), join_third c]

theorem encodeChars_injective : Function.Injective encodeChars := by
  intro bytes bytes' h
  have hread := decode?_encodeChars bytes
  rw [h, decode?_encodeChars] at hread
  exact (Option.some.inj hread).symm

/-! ## Writing what was read -/

/-- What can be read was written. -/
theorem eq_encodeChars_of_decode? {chars : List Char} {bytes : Bytes}
    (h : decode? chars = some bytes) : chars = encodeChars bytes := by
  -- by groups of four characters; in the short ones the bits left over are zero
  induction chars using decode?.induct generalizing bytes with
  | case1 =>
    obtain rfl := Option.some.inj h
    rfl
  | case2 a b =>
    rw [decode?] at h
    simp only [Option.bind_eq_bind, Option.bind_eq_some_iff, Option.ite_none_right_eq_some] at h
    obtain ⟨x, ha, y, hb, hzero, hbytes⟩ := h
    obtain ⟨hx, rfl⟩ := eq_digit_of_value? ha
    obtain ⟨hy, rfl⟩ := eq_digit_of_value? hb
    obtain rfl := Option.some.inj hbytes
    have hsecond : (UInt8.ofNat (x * 4 + y / 16)).toNat % 4 * 16 = y := by
      rw [toNat_first hx hy]
      omega
    rw [encodeChars, split_first hx hy, hsecond]
  | case3 a b c hc =>
    rw [decode?.eq_3 _ _ _ hc] at h
    simp only [Option.bind_eq_bind, Option.bind_eq_some_iff, Option.ite_none_right_eq_some] at h
    obtain ⟨x, ha, y, hb, z, hc, hzero, hbytes⟩ := h
    obtain ⟨hx, rfl⟩ := eq_digit_of_value? ha
    obtain ⟨hy, rfl⟩ := eq_digit_of_value? hb
    obtain ⟨hz, rfl⟩ := eq_digit_of_value? hc
    obtain rfl := Option.some.inj hbytes
    have hthird : (UInt8.ofNat (y % 16 * 16 + z / 4)).toNat % 16 * 4 = z := by
      rw [toNat_second hz]
      omega
    rw [encodeChars, split_first hx hy, split_second hx hy hz, hthird]
  | case4 a b c d rest hshort hpadded ih =>
    rw [decode?.eq_4 _ _ _ _ _ hshort hpadded] at h
    simp only [Option.bind_eq_bind, Option.bind_eq_some_iff] at h
    obtain ⟨x, ha, y, hb, z, hc, w, hd, more, hmore, hbytes⟩ := h
    obtain ⟨hx, rfl⟩ := eq_digit_of_value? ha
    obtain ⟨hy, rfl⟩ := eq_digit_of_value? hb
    obtain ⟨hz, rfl⟩ := eq_digit_of_value? hc
    obtain ⟨hw, rfl⟩ := eq_digit_of_value? hd
    obtain rfl := Option.some.inj hbytes
    rw [encodeChars, split_first hx hy, split_second hx hy hz, split_third hz hw, split_fourth hw,
      ih hmore]
  | case5 chars hnil htwo hthree hfour =>
    rw [decode?.eq_5 _ hnil htwo hthree hfour] at h
    cases h

/-- Characters are read as bytes exactly if they are their written form. -/
theorem decode?_eq_some_iff {chars : List Char} {bytes : Bytes} :
    decode? chars = some bytes ↔ chars = encodeChars bytes :=
  ⟨eq_encodeChars_of_decode?, fun h => h ▸ decode?_encodeChars bytes⟩

/-! ## Bits -/

/-- The bits of a byte, the high one first. -/
def bitsOf (b : UInt8) : List Nat :=
  (List.range 8).map fun i => (b.toNat.testBit (7 - i)).toNat

/-- The number that bits spell, the high one first. -/
def number (bits : List Nat) : Nat := bits.foldl (fun n bit => 2 * n + bit) 0

/-- The numbers that bits spell six at a time; zeros fill up the last six. -/
def sextets : List Nat → List Nat
  | a :: b :: c :: d :: e :: f :: rest => number [a, b, c, d, e, f] :: sextets rest
  | [] => []
  | bits => [number (bits ++ List.replicate (6 - bits.length) 0)]

theorem bitsOf_eq (b : UInt8) :
    bitsOf b = [b.toNat / 128 % 2, b.toNat / 64 % 2, b.toNat / 32 % 2, b.toNat / 16 % 2,
      b.toNat / 8 % 2, b.toNat / 4 % 2, b.toNat / 2 % 2, b.toNat % 2] := by
  simp [bitsOf, List.range_succ, Nat.toNat_testBit]

theorem number_six (a b c d e f : Nat) :
    number [a, b, c, d, e, f] = 32 * a + 16 * b + 8 * c + 4 * d + 2 * e + f := by
  simp only [number, List.foldl_cons, List.foldl_nil]
  omega

/-- The bits of the first digit are the high six of the first byte. -/
theorem number_first (a : UInt8) :
    number [a.toNat / 128 % 2, a.toNat / 64 % 2, a.toNat / 32 % 2, a.toNat / 16 % 2,
      a.toNat / 8 % 2, a.toNat / 4 % 2] = a.toNat / 4 := by
  have ha : a.toNat < 256 := a.toNat_lt
  rw [number_six]
  omega

theorem number_second (a b : UInt8) :
    number [a.toNat / 2 % 2, a.toNat % 2, b.toNat / 128 % 2, b.toNat / 64 % 2, b.toNat / 32 % 2,
      b.toNat / 16 % 2] = a.toNat % 4 * 16 + b.toNat / 16 := by
  have hb : b.toNat < 256 := b.toNat_lt
  rw [number_six]
  omega

theorem number_third (b c : UInt8) :
    number [b.toNat / 8 % 2, b.toNat / 4 % 2, b.toNat / 2 % 2, b.toNat % 2, c.toNat / 128 % 2,
      c.toNat / 64 % 2] = b.toNat % 16 * 4 + c.toNat / 64 := by
  have hc : c.toNat < 256 := c.toNat_lt
  rw [number_six]
  omega

theorem number_fourth (c : UInt8) :
    number [c.toNat / 32 % 2, c.toNat / 16 % 2, c.toNat / 8 % 2, c.toNat / 4 % 2, c.toNat / 2 % 2,
      c.toNat % 2] = c.toNat % 64 := by
  rw [number_six]
  omega

/-- The bits of three bytes are those of four digits. -/
theorem sextets_group (a b c : UInt8) (rest : List Nat) :
    sextets (bitsOf a ++ (bitsOf b ++ (bitsOf c ++ rest))) =
      a.toNat / 4 :: (a.toNat % 4 * 16 + b.toNat / 16) :: (b.toNat % 16 * 4 + c.toNat / 64) ::
        c.toNat % 64 :: sextets rest := by
  rw [bitsOf_eq, bitsOf_eq, bitsOf_eq]
  simp only [List.cons_append, List.nil_append, sextets]
  rw [number_first, number_second, number_third, number_fourth]

theorem sextets_one (a : UInt8) : sextets (bitsOf a) = [a.toNat / 4, a.toNat % 4 * 16] := by
  have hrest : number [a.toNat / 2 % 2, a.toNat % 2, 0, 0, 0, 0] = a.toNat % 4 * 16 :=
    number_second a 0
  rw [bitsOf_eq, sextets, number_first, ← hrest]
  rfl

theorem sextets_two (a b : UInt8) :
    sextets (bitsOf a ++ bitsOf b) =
      [a.toNat / 4, a.toNat % 4 * 16 + b.toNat / 16, b.toNat % 16 * 4] := by
  have hrest : number [b.toNat / 8 % 2, b.toNat / 4 % 2, b.toNat / 2 % 2, b.toNat % 2, 0, 0] =
      b.toNat % 16 * 4 := number_third b 0
  rw [bitsOf_eq, bitsOf_eq]
  simp only [List.cons_append, List.nil_append, sextets]
  rw [number_first, number_second, ← hrest]
  rfl

/-- What is written are the bits of the bytes, six at a time, as digits, and padding up to a multiple
of four characters. -/
theorem encodeChars_eq_sextets (bytes : Bytes) :
    encodeChars bytes = (sextets (bytes.flatMap bitsOf)).map digit ++
      List.replicate ((3 - bytes.length % 3) % 3) '=' := by
  induction bytes using encodeChars.induct with
  | case1 => rfl
  | case2 a =>
    rw [List.flatMap_singleton, sextets_one]
    rfl
  | case3 a b =>
    rw [List.flatMap_cons, List.flatMap_singleton, sextets_two]
    rfl
  | case4 a b c rest ih =>
    have hpad : (3 - (a :: b :: c :: rest).length % 3) % 3 = (3 - rest.length % 3) % 3 := by
      have hlength : (a :: b :: c :: rest).length = rest.length + 3 := rfl
      rw [hlength, Nat.add_mod_right]
    rw [List.flatMap_cons, List.flatMap_cons, List.flatMap_cons, sextets_group, hpad, encodeChars, ih]
    rfl

end TestRig.Text.Base64
