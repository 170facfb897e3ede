/-
  TestRig.Proofs.Text.Hex

  Bytes are written as two lower-case digits each, and read from two digits each.  Reading
  accepts exactly what is written, with its letters in either case
  (`decode?_eq_some_iff`), so each sequence of bytes has one lower-case form.
-/
import Mathlib.Tactic.SplitIfs
import TestRig.Text.Blank
import TestRig.Text.Hex

namespace TestRig.Text.Hex

/-! ## Digits -/

/-- The characters of the digits, by their values. -/
def alphabet : List Char := "0123456789abcdef".toList

theorem alphabet_eq : alphabet = (List.range 16).map digit := by decide

theorem toLower_digit : ∀ n < 16, (digit n).toLower = digit n := by decide

theorem toNat_digit : ∀ n < 16, (digit n).toNat = if n < 10 then 48 + n else 87 + n := by decide

theorem digit_injective {n m : Nat} (hn : n < 16) (hm : m < 16) (h : digit n = digit m) : n = m := by
  have hvalue := value?_digit n hn
  rw [h, value?_digit m hm] at hvalue
  exact (Option.some.inj hvalue).symm

theorem digit_mem_alphabet {n : Nat} (h : n < 16) : digit n ∈ alphabet := by
  rw [alphabet_eq]
  exact List.mem_map_of_mem (List.mem_range.2 h)

/-- A capital letter stands thirty-two characters in front of its small one. -/
theorem toNat_toLower (c : Char) :
    c.toLower.toNat = if 65 ≤ c.toNat ∧ c.toNat ≤ 90 then c.toNat + 32 else c.toNat := by
  have hcapital : c.val ≥ 'A'.val ∧ c.val ≤ 'Z'.val ↔ 65 ≤ c.toNat ∧ c.toNat ≤ 90 := Iff.rfl
  unfold Char.toLower
  split
  · rename_i h
    have hsum : (c.val + ('a'.val - 'A'.val)).toNat = c.toNat + 32 := by
      have hhigh : c.val.toNat ≤ 90 := (hcapital.1 h).2
      have hgap : ('a'.val - 'A'.val).toNat = 32 := rfl
      rw [UInt32.toNat_add, hgap]
      change (c.val.toNat + 32) % 4294967296 = c.val.toNat + 32
      omega
    rw [if_pos (hcapital.1 h)]
    exact hsum
  · rename_i h
    rw [if_neg (fun hupper => h (hcapital.2 hupper))]

/-- The character of a value is its digit, but for the case of letters. -/
theorem value?_eq_some_iff {c : Char} {n : Nat} :
    value? c = some n ↔ n < 16 ∧ c.toLower = digit n := by
  -- both sides are told by the number of the character
  have hlower : c.toLower = digit n ↔ c.toLower.toNat = (digit n).toNat := Char.toNat_inj.symm
  have hdecimal : '0' ≤ c ∧ c ≤ '9' ↔ 48 ≤ c.toNat ∧ c.toNat ≤ 57 := Iff.rfl
  have hsmall : 'a' ≤ c ∧ c ≤ 'f' ↔ 97 ≤ c.toNat ∧ c.toNat ≤ 102 := Iff.rfl
  have hcapital : 'A' ≤ c ∧ c ≤ 'F' ↔ 65 ≤ c.toNat ∧ c.toNat ≤ 70 := Iff.rfl
  have hvalue : value? c = some n ↔
      48 ≤ c.toNat ∧ c.toNat ≤ 57 ∧ n = c.toNat - 48 ∨
      97 ≤ c.toNat ∧ c.toNat ≤ 102 ∧ n = c.toNat - 97 + 10 ∨
      65 ≤ c.toNat ∧ c.toNat ≤ 70 ∧ n = c.toNat - 65 + 10 := by
    have h0 : '0'.toNat = 48 := rfl
    have ha : 'a'.toNat = 97 := rfl
    have hA : 'A'.toNat = 65 := rfl
    simp only [value?, hdecimal, hsmall, hcapital, h0, ha, hA]
    split_ifs with hd hs hc
    · rw [Option.some.injEq]
      omega
    · rw [Option.some.injEq]
      omega
    · rw [Option.some.injEq]
      omega
    · refine iff_of_false nofun ?_
      omega
  rw [hvalue]
  constructor
  · intro h
    have hn : n < 16 := by omega
    refine ⟨hn, hlower.2 ?_⟩
    rw [toNat_toLower, toNat_digit n hn]
    split_ifs <;> omega
  · rintro ⟨hn, h⟩
    have hnumber := hlower.1 h
    rw [toNat_toLower, toNat_digit n hn] at hnumber
    split_ifs at hnumber <;> omega

theorem isBlank_eq_false_of_isDigit {c : Char} (h : isDigit c = true) : isBlank c = false := by
  obtain ⟨n, hn⟩ := Option.isSome_iff_exists.1 h
  obtain ⟨hsmall, hlower⟩ := value?_eq_some_iff.1 hn
  have hnumber := congrArg Char.toNat hlower
  rw [toNat_toLower, toNat_digit n hsmall] at hnumber
  have hrange : 48 ≤ c.toNat ∧ c.toNat ≤ 102 := by
    split_ifs at hnumber <;> omega
  -- the blanks leave out the numbers from 33 up to 132
  simp only [isBlank, blankRanges, List.any_cons, List.any_nil, Bool.or_false,
    Bool.or_eq_false_iff, Bool.and_eq_false_iff, decide_eq_false_iff_not]
  omega

/-! ## Sequences of bytes -/

theorem encodeChars_cons (b : UInt8) (bytes : Bytes) :
    encodeChars (b :: bytes) =
      digit (b.toNat / 16) :: digit (b.toNat % 16) :: encodeChars bytes := rfl

theorem length_encodeChars (bytes : Bytes) : (encodeChars bytes).length = 2 * bytes.length := by
  induction bytes with
  | nil => rfl
  | cons b bytes ih =>
    rw [encodeChars_cons, List.length_cons, List.length_cons, List.length_cons, ih]
    omega

theorem exists_digit_of_mem_encodeChars {bytes : Bytes} {c : Char} (h : c ∈ encodeChars bytes) :
    ∃ n < 16, c = digit n := by
  obtain ⟨b, -, hc⟩ := List.mem_flatMap.1 h
  have hb : b.toNat < 256 := b.toNat_lt
  obtain rfl | rfl : c = digit (b.toNat / 16) ∨ c = digit (b.toNat % 16) := by
    simpa [pair] using hc
  · exact ⟨b.toNat / 16, by omega, rfl⟩
  · exact ⟨b.toNat % 16, by omega, rfl⟩

theorem isDigit_of_mem_encodeChars {bytes : Bytes} {c : Char} (h : c ∈ encodeChars bytes) :
    isDigit c = true := by
  obtain ⟨n, hn, rfl⟩ := exists_digit_of_mem_encodeChars h
  rw [isDigit, value?_digit n hn]
  rfl

/-- A byte is its high half times sixteen plus its low half. -/
theorem ofNat_halves (b : UInt8) : UInt8.ofNat (b.toNat / 16 * 16 + b.toNat % 16) = b := by
  have hb : b.toNat / 16 * 16 + b.toNat % 16 = b.toNat := by omega
  rw [hb, UInt8.ofNat_toNat]

/-- Both halves are found again in the byte. -/
theorem toNat_ofNat_halves {high low : Nat} (hhigh : high < 16) (hlow : low < 16) :
    (UInt8.ofNat (high * 16 + low)).toNat / 16 = high ∧
      (UInt8.ofNat (high * 16 + low)).toNat % 16 = low := by
  rw [UInt8.toNat_ofNat']
  omega

/-- What is read comes behind what was read before. -/
theorem decodeOnto_eq_some_iff {chars : List Char} {read bytes : Bytes} :
    decodeOnto read chars = some bytes ↔
      ∃ more, bytes = read.reverse ++ more ∧ chars.map Char.toLower = encodeChars more := by
  -- two digits at a time; a list of bytes has none, or two digits in front of the others
  induction read, chars using decodeOnto.induct generalizing bytes with
  | case1 read =>
    rw [decodeOnto, Option.some.injEq]
    constructor
    · rintro rfl
      exact ⟨[], by simp, rfl⟩
    · rintro ⟨more, rfl, hmore⟩
      cases more with
      | nil => simp
      | cons b more => cases hmore
  | case2 read c =>
    rw [decodeOnto]
    refine iff_of_false nofun ?_
    rintro ⟨more, -, hmore⟩
    have hodd := congrArg List.length hmore
    rw [length_encodeChars, List.length_map, List.length_singleton] at hodd
    omega
  | case3 read high low rest h l hlow hhigh ih =>
    obtain ⟨hh, hhigh'⟩ := value?_eq_some_iff.1 hhigh
    obtain ⟨hl, hlow'⟩ := value?_eq_some_iff.1 hlow
    obtain ⟨hjoinHigh, hjoinLow⟩ := toNat_ofNat_halves hh hl
    simp only [decodeOnto, hhigh, hlow, ih]
    constructor
    · rintro ⟨more, rfl, hmore⟩
      refine ⟨UInt8.ofNat (h * 16 + l) :: more, by simp, ?_⟩
      rw [encodeChars_cons, hjoinHigh, hjoinLow, List.map_cons, List.map_cons, hhigh', hlow', hmore]
    · rintro ⟨more, rfl, hmore⟩
      cases more with
      | nil => cases hmore
      | cons b more =>
        rw [encodeChars_cons, List.map_cons, List.map_cons, List.cons.injEq, List.cons.injEq,
          hhigh', hlow'] at hmore
        obtain ⟨hfirst, hsecond, hmore⟩ := hmore
        have hb : b.toNat < 256 := b.toNat_lt
        have hvalue : h = b.toNat / 16 ∧ l = b.toNat % 16 := by
          constructor
          · exact digit_injective hh (by omega) hfirst
          · exact digit_injective hl (by omega) hsecond
        refine ⟨more, ?_, hmore⟩
        rw [hvalue.1, hvalue.2, ofNat_halves, List.reverse_cons, List.append_assoc]
        rfl
  | case4 read high low rest hnone =>
    have hnothing : decodeOnto read (high :: low :: rest) = none := by
      rw [decodeOnto]
      split
      · exact (hnone _ _ ‹_› ‹_›).elim
      · rfl
    rw [hnothing]
    refine iff_of_false nofun ?_
    rintro ⟨more, -, hmore⟩
    cases more with
    | nil => cases hmore
    | cons b more =>
      rw [encodeChars_cons, List.map_cons, List.map_cons, List.cons.injEq, List.cons.injEq] at hmore
      obtain ⟨hfirst, hsecond, -⟩ := hmore
      have hb : b.toNat < 256 := b.toNat_lt
      exact hnone _ _ (value?_eq_some_iff.2 ⟨by omega, hfirst⟩)
        (value?_eq_some_iff.2 ⟨by omega, hsecond⟩)

/-- Characters are read as bytes exactly if they are their digits, in either case. -/
theorem decode?_eq_some_iff {chars : List Char} {bytes : Bytes} :
    decode? chars = some bytes ↔ chars.map Char.toLower = encodeChars bytes := by
  rw [decode?, decodeOnto_eq_some_iff]
  simp

/-- What is written is read back. -/
theorem decode?_encodeChars (bytes : Bytes) : decode? (encodeChars bytes) = some bytes := by
  rw [decode?_eq_some_iff]
  refine (List.map_congr_left fun c hc => ?_).trans (List.map_id _)
  obtain ⟨n, hn, rfl⟩ := exists_digit_of_mem_encodeChars hc
  exact toLower_digit n hn

theorem encodeChars_injective : Function.Injective encodeChars := by
  intro bytes bytes' h
  have hread := decode?_encodeChars bytes
  rw [h, decode?_encodeChars] at hread
  exact (Option.some.inj hread).symm

end TestRig.Text.Hex
