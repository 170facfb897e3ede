/-
  TestRig.Proofs.Text.Encoding

  UTF-8 keeps texts apart, and an ASCII byte stands for its own character wherever it
  occurs in an encoded text.
-/
import TestRig.Text.Utf8

namespace TestRig.Text

@[simp] theorem encodeChars_cons (c : Char) (text : List Char) :
    encodeChars (c :: text) = String.utf8EncodeChar c ++ encodeChars text := rfl

/-! ## Injectivity -/

theorem encodeChars_injective {a b : List Char} (h : encodeChars a = encodeChars b) : a = b := by
  have hbytes : a.utf8Encode = b.utf8Encode := congrArg List.toByteArray h
  have hdecode := congrArg ByteArray.utf8Decode? hbytes
  rw [List.utf8Decode?_utf8Encode, List.utf8Decode?_utf8Encode] at hdecode
  simpa using hdecode

theorem encode_injective {a b : String} (h : encode a = encode b) : a = b :=
  String.toList_injective (encodeChars_injective h)

theorem encodeChars_eq_nil_iff {text : List Char} : encodeChars text = [] ↔ text = [] :=
  ⟨fun h => encodeChars_injective (h.trans encodeChars_nil.symm), fun h => by simp [h]⟩

/-! ## ASCII bytes -/

/-- A byte below `0x80` occurs only in the encoding of its own character, and is all of it. -/
theorem eq_of_mem_utf8EncodeChar {c : Char} {b : UInt8} (hb : b.toNat < 0x80)
    (h : b ∈ String.utf8EncodeChar c) : b.toNat = c.toNat ∧ String.utf8EncodeChar c = [b] := by
  have hlarge : ∀ n : Nat, 0x80 ≤ n → n < 0x100 → b ≠ UInt8.ofNat n := by
    intro n hlow hhigh heq
    rw [heq, UInt8.toNat_ofNat', Nat.mod_eq_of_lt hhigh] at hb
    omega
  unfold String.utf8EncodeChar at h ⊢
  simp only at h ⊢
  split at h
  · rename_i hsmall
    have hbyte : b = UInt8.ofNat c.val.toNat := by simpa using h
    have hmod : c.val.toNat % 256 = c.val.toNat := Nat.mod_eq_of_lt (by omega)
    refine ⟨?_, by rw [if_pos hsmall, hbyte]⟩
    rw [hbyte, UInt8.toNat_ofNat']
    exact hmod
  · exfalso
    split at h
    · simp only [List.mem_cons, List.not_mem_nil, or_false] at h
      rcases h with h | h <;> exact hlarge _ (by omega) (by omega) h
    · split at h
      · simp only [List.mem_cons, List.not_mem_nil, or_false] at h
        rcases h with h | h | h <;> exact hlarge _ (by omega) (by omega) h
      · simp only [List.mem_cons, List.not_mem_nil, or_false] at h
        rcases h with h | h | h | h <;> exact hlarge _ (by omega) (by omega) h

/-- A character below `0x80` is encoded as the byte of its code. -/
theorem utf8EncodeChar_of_toNat_eq {c : Char} {b : UInt8} (hb : b.toNat < 0x80)
    (h : b.toNat = c.toNat) : String.utf8EncodeChar c = [b] := by
  have hc : c.val.toNat = b.toNat := h.symm
  unfold String.utf8EncodeChar
  simp only [hc]
  rw [if_pos (by omega)]
  simp

end TestRig.Text
