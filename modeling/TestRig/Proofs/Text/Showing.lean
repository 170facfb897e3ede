/-
  TestRig.Proofs.Text.Showing

  ASCII text in bytes that need not be valid UTF-8.  An ASCII byte continues no
  character, so the bytes in front of it are cut as if they ended there
  (`pieces_append_ascii`).  Therefore an ASCII text stands in the bytes exactly if it
  stands in the text that is shown for them (`infix_decodeLossy_iff`), whatever invalid
  parts lie around it.
-/
import TestRig.Proofs.Text.Decoding

namespace TestRig.Text

variable {b : UInt8} {c : Char} {bytes : Bytes} {text : List Char}

/-! ## Bytes to shown text -/

theorem isSecond_of_ascii (hb : b.toNat < 0x80) (lead : UInt8) : isSecond lead b = false := by
  rw [Bool.eq_false_iff, ne_eq, isSecond_iff]
  omega

theorem isContinuation_of_ascii (hb : b.toNat < 0x80) : isContinuation b = false := by
  rw [Bool.eq_false_iff, ne_eq, isContinuation_iff]
  omega

/-- No character reaches beyond an ASCII byte. -/
theorem continuation_append_ascii (hb : b.toNat < 0x80) (lead : UInt8) (front rest : Bytes) :
    continuation lead (front ++ b :: rest) = continuation lead front := by
  unfold continuation
  cases hlead : furtherBytes lead with
  | none => rfl
  | some count =>
    cases count with
    | zero => rfl
    | succ n =>
      cases front with
      | nil => simp [isSecond_of_ascii hb]
      | cons second more =>
        -- what is taken of the rest starts with the ASCII byte, if it is not empty
        have hstop : ((b :: rest).take (n - more.length)).takeWhile isContinuation = [] := by
          cases n - more.length with
          | zero => rfl
          | succ k =>
            rw [List.take_succ_cons, List.takeWhile_cons_of_neg]
            simp [isContinuation_of_ascii hb]
        have htake : ((more ++ b :: rest).take n).takeWhile isContinuation =
            (more.take n).takeWhile isContinuation := by
          rw [List.take_append, List.takeWhile_append, hstop, List.append_nil]
          split
          · rename_i hall
            exact ((List.takeWhile_prefix _).eq_of_length hall).symm
          · rfl
        simp only [List.cons_append, htake]

/-- Bytes in front of an ASCII byte are cut into pieces as if they ended there. -/
theorem pieces_append_ascii (hb : b.toNat < 0x80) (front rest : Bytes) :
    pieces (front ++ b :: rest) = pieces front ++ pieces (b :: rest) := by
  -- a piece is skipped as a whole, so the induction is on the length
  induction hlength : front.length using Nat.strong_induction_on generalizing front with
  | _ n ih =>
  cases front with
  | nil => rfl
  | cons lead more =>
    have hreach : (continuation lead more).length ≤ more.length :=
      (continuation_isPrefix lead more).length_le
    have hshorter : (more.drop (continuation lead more).length).length < n := by
      rw [List.length_drop, ← hlength, List.length_cons]
      omega
    rw [List.cons_append, pieces_cons, pieces_cons, continuation_append_ascii hb,
      List.drop_append_of_le_length hreach, ih _ hshorter _ rfl, List.cons_append]

/-- The byte of an ASCII character. -/
theorem exists_ascii_byte (hc : c.toNat < 0x80) :
    ∃ b : UInt8, b.toNat < 0x80 ∧ String.utf8EncodeChar c = [b] := by
  have hbyte : (UInt8.ofNat c.toNat).toNat = c.toNat := by
    rw [UInt8.toNat_ofNat', Nat.mod_eq_of_lt (by omega)]
  exact ⟨UInt8.ofNat c.toNat, by omega, utf8EncodeChar_of_toNat_eq (by omega) hbyte⟩

/-- The characters of an ASCII text are pieces wherever it stands. -/
theorem pieces_append_encodeChars (hascii : ∀ c ∈ text, c.toNat < 0x80) (hne : text ≠ [])
    (front rest : Bytes) :
    pieces (front ++ (encodeChars text ++ rest)) =
      pieces front ++ (text.map some ++ pieces rest) := by
  cases text with
  | nil => exact absurd rfl hne
  | cons c text =>
    obtain ⟨b, hb, hencode⟩ := exists_ascii_byte (hascii c List.mem_cons_self)
    have hfirst : encodeChars (c :: text) ++ rest = b :: (encodeChars text ++ rest) := by
      rw [encodeChars_cons, hencode, List.append_assoc, List.singleton_append]
    rw [hfirst, pieces_append_ascii hb, ← hfirst, pieces_encodeChars_append]

/-! ## Both ways -/

/-- An ASCII text is shown exactly where its bytes stand. -/
theorem infix_decodeLossy_iff (hascii : ∀ c ∈ text, c.toNat < 0x80) :
    text <:+: (decodeLossy bytes).toList ↔ encodeChars text <:+: bytes := by
  rw [decodeLossy, String.toList_ofList]
  constructor
  · rintro ⟨before, after, htext⟩
    obtain ⟨found, back, hpieces, hfound, -⟩ := List.map_eq_append_iff.1 htext.symm
    obtain ⟨front, middle, hsplit, -, hmiddle⟩ := List.map_eq_append_iff.1 hfound
    have hvalid : replacement ∉ text := fun hmem =>
      absurd (hascii replacement hmem) (by decide)
    have hchars : middle = text.map some := eq_map_some_of_shown hmiddle hvalid
    rw [hsplit, hchars, List.append_assoc] at hpieces
    exact encodeChars_infix_of_pieces hpieces
  · rintro ⟨front, rest, hbytes⟩
    by_cases hne : text = []
    · rw [hne]
      exact List.nil_infix
    · rw [← hbytes, List.append_assoc, pieces_append_encodeChars hascii hne]
      refine ⟨(pieces front).map (·.getD replacement), (pieces rest).map (·.getD replacement), ?_⟩
      have hshown : (text.map some).map (·.getD replacement) = text := by
        rw [List.map_map]
        exact List.map_id text
      rw [List.map_append, List.map_append, hshown, List.append_assoc]

end TestRig.Text
