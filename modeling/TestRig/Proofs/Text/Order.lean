/-
  TestRig.Proofs.Text.Order

  Texts are ordered as their bytes are.  A longer form of a character has a larger lead
  byte and holds a larger code (`Continues.bounds`); forms of one length hold the code in
  digits to the base 64 (`digits_lt`).  So of two characters the smaller one comes first
  in its bytes, and the order of texts by characters is that of their encodings by bytes
  (`encode_le_encode`).
-/
import Mathlib.Order.Defs.LinearOrder
import TestRig.Proofs.Text.Decoding

namespace TestRig.Text

/-! ## Codes in their bytes -/

/-- Of two numbers in as many digits to the base 64 the smaller one is smaller in front or comes
first in its digits. -/
theorem digits_lt {tail tail' : Bytes} (hlength : tail.length = tail'.length)
    (hdigits : ∀ b ∈ tail, 0x80 ≤ b.toNat ∧ b.toNat < 0xC0)
    (hdigits' : ∀ b ∈ tail', 0x80 ≤ b.toNat ∧ b.toNat < 0xC0) {front front' : Nat}
    (h : tail.foldl (fun code b => code * 64 + (b.toNat - 0x80)) front <
      tail'.foldl (fun code b => code * 64 + (b.toNat - 0x80)) front') :
    front < front' ∨ front = front' ∧ ∀ x y : Bytes, tail ++ x < tail' ++ y := by
  induction tail generalizing tail' front front' with
  | nil =>
    obtain rfl : [] = tail' := (List.length_eq_zero_iff.1 hlength.symm).symm
    exact .inl h
  | cons b tail ih =>
    cases tail' with
    | nil => cases hlength
    | cons b' tail' =>
      obtain ⟨hb, hdigits⟩ := List.forall_mem_cons.1 hdigits
      obtain ⟨hb', hdigits'⟩ := List.forall_mem_cons.1 hdigits'
      have hshorter : tail.length = tail'.length := by simpa using hlength
      rw [List.foldl_cons, List.foldl_cons] at h
      rcases ih hshorter hdigits hdigits' h with hfront | ⟨hfront, htail⟩
      · by_cases hsame : front = front'
        · have hbyte : b < b' := UInt8.lt_iff_toNat_lt.2 (by omega)
          exact .inr ⟨hsame, fun x y => List.cons_lt_cons_iff.2 (.inl hbyte)⟩
        · exact .inl (by omega)
      · -- the digits end equal, so they are equal here and in front
        have hbyte : b = b' := UInt8.toNat_inj.1 (by omega)
        exact .inr ⟨by omega, fun x y => List.cons_lt_cons_iff.2 (.inr ⟨hbyte, htail x y⟩)⟩

theorem Continues.digits {lead : UInt8} {tail : Bytes} (h : Continues lead tail) :
    ∀ b ∈ tail, 0x80 ≤ b.toNat ∧ b.toNat < 0xC0 := by
  intro b hb
  cases tail with
  | nil => cases hb
  | cons second further =>
    rcases List.mem_cons.1 hb with rfl | hb
    · exact (isSecond_iff.1 (h.second b rfl)).1
    · exact isContinuation_iff.1 (h.further b hb)

/-- Which codes are held in how many bytes. -/
theorem Continues.bounds {lead : UInt8} {tail : Bytes} (h : Continues lead tail) :
    (tail.length = 0 ∧ codePoint lead tail < 0x80) ∨
    (tail.length = 1 ∧ 0x80 ≤ codePoint lead tail ∧ codePoint lead tail < 0x800) ∨
    (tail.length = 2 ∧ 0x800 ≤ codePoint lead tail ∧ codePoint lead tail < 0x10000) ∨
    (tail.length = 3 ∧ 0x10000 ≤ codePoint lead tail) := by
  obtain ⟨rfl, hlead⟩ | ⟨b, rfl, hb, hlead⟩ | ⟨b₁, b₂, rfl, hb₁, hb₂, hlead⟩ |
    ⟨b₁, b₂, b₃, rfl, hb₁, hb₂, hb₃, hlead⟩ := h.cases
  · simp [codePoint, leadBits]
    omega
  · rw [isSecond_iff] at hb
    simp [codePoint, leadBits]
    omega
  · rw [isSecond_iff] at hb₁
    rw [isContinuation_iff] at hb₂
    simp [codePoint, leadBits]
    omega
  · rw [isSecond_iff] at hb₁
    rw [isContinuation_iff] at hb₂ hb₃
    simp [codePoint, leadBits]
    omega

/-- The bytes that hold the smaller code come first, whatever follows. -/
theorem Continues.append_lt {lead lead' : UInt8} {tail tail' : Bytes} (h : Continues lead tail)
    (h' : Continues lead' tail') (hlt : codePoint lead tail < codePoint lead' tail')
    (x y : Bytes) : lead :: tail ++ x < lead' :: tail' ++ y := by
  have hlead := furtherBytes_eq_some_iff.1 h.announced
  have hlead' := furtherBytes_eq_some_iff.1 h'.announced
  have hlength : tail.length ≤ tail'.length := by
    have hbounds := h.bounds
    have hbounds' := h'.bounds
    omega
  rw [List.cons_append, List.cons_append, List.cons_lt_cons_iff, UInt8.lt_iff_toNat_lt]
  rcases Nat.lt_or_eq_of_le hlength with hshorter | hsame
  · exact .inl (by omega)
  · rw [codePoint, codePoint, ← hsame] at hlt
    -- in forms of one length the lead bytes are ordered as the bits that they hold
    have hbits : ∃ mark, mark ≤ lead.toNat ∧ mark ≤ lead'.toNat ∧
        leadBits lead tail.length = lead.toNat - mark ∧
        leadBits lead' tail.length = lead'.toNat - mark := by
      refine ⟨if tail.length = 0 then 0 else 0x100 - 0x80 >>> tail.length, ?_, ?_, rfl, rfl⟩
      · rcases hlead with ⟨hn, h⟩ | ⟨hn, h⟩ | ⟨hn, h⟩ | ⟨hn, h⟩ <;> simp [hn] <;> omega
      · rw [hsame]
        rcases hlead' with ⟨hn, h⟩ | ⟨hn, h⟩ | ⟨hn, h⟩ | ⟨hn, h⟩ <;> simp [hn] <;> omega
    obtain ⟨mark, hmark, hmark', hlow, hlow'⟩ := hbits
    rcases digits_lt hsame h.digits h'.digits hlt with hfront | ⟨hfront, htail⟩
    · exact .inl (by omega)
    · exact .inr ⟨UInt8.toNat_inj.1 (by omega), htail x y⟩

theorem utf8EncodeChar_append_lt {c d : Char} (h : c < d) (x y : Bytes) :
    String.utf8EncodeChar c ++ x < String.utf8EncodeChar d ++ y := by
  obtain ⟨lead, tail, hc, hcontinues, hcode⟩ := continues_of_encode c
  obtain ⟨lead', tail', hd, hcontinues', hcode'⟩ := continues_of_encode d
  have hlt : codePoint lead tail < codePoint lead' tail' := by
    rw [hcode, hcode']
    exact h
  rw [hc, hd]
  exact hcontinues.append_lt hcontinues' hlt x y

/-! ## Texts -/

theorem encodeChars_lt {a b : List Char} (h : a < b) : encodeChars a < encodeChars b := by
  induction h with
  | nil =>
    rename_i d b
    obtain ⟨lead, tail, hd, -, -⟩ := continues_of_encode d
    rw [encodeChars_nil, encodeChars_cons, hd]
    exact List.nil_lt_cons _ _
  | rel h => exact utf8EncodeChar_append_lt h _ _
  | cons h ih => exact List.append_left_lt ih

/-- Texts in order have their encodings in order. -/
theorem encode_le_encode {a b : String} (h : a ≤ b) : encode a ≤ encode b := by
  rcases Std.le_iff_lt_or_eq.1 h with hlt | rfl
  · exact List.le_of_lt (encodeChars_lt (String.lt_iff.1 hlt))
  · exact List.le_refl _

end TestRig.Text
