/-
  TestRig.Proofs.Text.Decoding

  Reading bytes undoes writing characters.  A lead byte with the bytes that continue it
  is the encoding of one character exactly if the lead byte announces as many as there
  are (`encode_of_continues`, `continues_of_encode`), so cutting the encoding of a text
  yields its characters (`pieces_encodeChars`), and bytes that are read as a text are its
  encoding (`decode?_eq_some_iff`).
-/
import Mathlib.Data.List.Basic
import Mathlib.Data.List.TakeWhile
import TestRig.Proofs.Text.Encoding

namespace TestRig.Text

/-! ## Classes of bytes -/

theorem furtherBytes_eq_some_iff {lead : UInt8} {n : Nat} :
    furtherBytes lead = some n ↔
      (n = 0 ∧ lead.toNat < 0x80) ∨ (n = 1 ∧ 0xC2 ≤ lead.toNat ∧ lead.toNat < 0xE0) ∨
      (n = 2 ∧ 0xE0 ≤ lead.toNat ∧ lead.toNat < 0xF0) ∨
      (n = 3 ∧ 0xF0 ≤ lead.toNat ∧ lead.toNat < 0xF5) := by
  unfold furtherBytes
  simp only [UInt8.lt_iff_toNat_lt, UInt8.toNat_ofNat]
  split_ifs <;> simp <;> omega

theorem isContinuation_iff {b : UInt8} :
    isContinuation b = true ↔ 0x80 ≤ b.toNat ∧ b.toNat < 0xC0 := by
  simp [isContinuation, UInt8.le_iff_toNat_le]
  omega

theorem isSecond_iff {lead b : UInt8} :
    isSecond lead b = true ↔ (0x80 ≤ b.toNat ∧ b.toNat < 0xC0) ∧
      (lead.toNat = 0xE0 → 0xA0 ≤ b.toNat) ∧ (lead.toNat = 0xED → b.toNat < 0xA0) ∧
      (lead.toNat = 0xF0 → 0x90 ≤ b.toNat) ∧ (lead.toNat = 0xF4 → b.toNat < 0x90) := by
  unfold isSecond
  split_ifs with hE0 hED hF0 hF4
  · subst hE0
    simp [UInt8.le_iff_toNat_le]
    omega
  · subst hED
    simp [UInt8.le_iff_toNat_le]
    omega
  · subst hF0
    simp [UInt8.le_iff_toNat_le]
    omega
  · subst hF4
    simp [UInt8.le_iff_toNat_le]
    omega
  · rw [isContinuation_iff]
    simp only [← UInt8.toNat_inj, UInt8.toNat_ofNat] at hE0 hED hF0 hF4
    simp at hE0 hED hF0 hF4
    simp [hE0, hED, hF0, hF4]

/-! ## One character -/

/-- The code point that a lead byte and the bytes behind it hold. -/
def codePoint (lead : UInt8) (tail : Bytes) : Nat :=
  tail.foldl (fun code b => code * 64 + (b.toNat - 0x80)) (leadBits lead tail.length)

/-- The bytes are all those that the lead byte announces, and each may stand where it does. -/
structure Continues (lead : UInt8) (tail : Bytes) : Prop where
  announced : furtherBytes lead = some tail.length
  second : ∀ b ∈ tail.head?, isSecond lead b = true
  further : ∀ b ∈ tail.tail, isContinuation b = true

theorem piece_eq_some_iff {lead : UInt8} {tail : Bytes} {c : Char} :
    piece lead tail = some c ↔
      furtherBytes lead = some tail.length ∧ c = Char.ofNat (codePoint lead tail) := by
  unfold piece codePoint
  cases hlead : furtherBytes lead with
  | none => simp
  | some n =>
    simp only [Option.some.injEq]
    by_cases hn : tail.length = n
    · simp [hn, eq_comm]
    · simp [hn, Ne.symm hn]

/-- The encoding of the character with a given code point. -/
theorem utf8EncodeChar_ofNat {n : Nat} (hn : n.isValidChar) :
    String.utf8EncodeChar (Char.ofNat n) =
      if n ≤ 127 then [UInt8.ofNat n]
      else if n ≤ 2047 then [UInt8.ofNat (n / 64 % 32 + 192), UInt8.ofNat (n % 64 + 128)]
      else if n ≤ 65535 then
        [UInt8.ofNat (n / 4096 % 16 + 224), UInt8.ofNat (n / 64 % 64 + 128),
          UInt8.ofNat (n % 64 + 128)]
      else
        [UInt8.ofNat (n / 262144 % 8 + 240), UInt8.ofNat (n / 4096 % 64 + 128),
          UInt8.ofNat (n / 64 % 64 + 128), UInt8.ofNat (n % 64 + 128)] := by
  have hval : (Char.ofNat n).val.toNat = n := by
    rw [Char.ofNat, dif_pos hn]
    rfl
  unfold String.utf8EncodeChar
  simp only [hval]

/-- The four lengths of an encoded character. -/
theorem Continues.cases {lead : UInt8} {tail : Bytes} (h : Continues lead tail) :
    (tail = [] ∧ lead.toNat < 0x80) ∨
    (∃ b, tail = [b] ∧ isSecond lead b = true ∧ 0xC2 ≤ lead.toNat ∧ lead.toNat < 0xE0) ∨
    (∃ b₁ b₂, tail = [b₁, b₂] ∧ isSecond lead b₁ = true ∧ isContinuation b₂ = true ∧
      0xE0 ≤ lead.toNat ∧ lead.toNat < 0xF0) ∨
    ∃ b₁ b₂ b₃, tail = [b₁, b₂, b₃] ∧ isSecond lead b₁ = true ∧ isContinuation b₂ = true ∧
      isContinuation b₃ = true ∧ 0xF0 ≤ lead.toNat ∧ lead.toNat < 0xF5 := by
  obtain ⟨hannounced, hsecond, hfurther⟩ := h
  obtain ⟨hlength, hlead⟩ | ⟨hlength, hlead⟩ | ⟨hlength, hlead⟩ | ⟨hlength, hlead⟩ :=
    furtherBytes_eq_some_iff.1 hannounced
  · exact .inl ⟨List.length_eq_zero_iff.1 hlength, hlead⟩
  · obtain ⟨b, rfl⟩ := List.length_eq_one_iff.1 hlength
    exact .inr (.inl ⟨b, rfl, hsecond b rfl, hlead⟩)
  · obtain ⟨b₁, b₂, rfl⟩ := List.length_eq_two.1 hlength
    exact .inr (.inr (.inl ⟨b₁, b₂, rfl, hsecond b₁ rfl, hfurther b₂ (by simp), hlead⟩))
  · obtain ⟨b₁, b₂, b₃, rfl⟩ := List.length_eq_three.1 hlength
    exact .inr (.inr (.inr ⟨b₁, b₂, b₃, rfl, hsecond b₁ rfl, hfurther b₂ (by simp),
      hfurther b₃ (by simp), hlead⟩))

/-- What a lead byte and the bytes that continue it hold is encoded as these bytes. -/
theorem encode_of_continues {lead : UInt8} {tail : Bytes} (h : Continues lead tail) :
    String.utf8EncodeChar (Char.ofNat (codePoint lead tail)) = lead :: tail := by
  -- In each case the bounds on the bytes place the code in the range of this length, so the
  -- quotients and remainders of the encoder are the bytes again.
  obtain ⟨rfl, hlead⟩ | ⟨b, rfl, hb, hlead⟩ | ⟨b₁, b₂, rfl, hb₁, hb₂, hlead⟩ |
    ⟨b₁, b₂, b₃, rfl, hb₁, hb₂, hb₃, hlead⟩ := h.cases
  · have hcode : codePoint lead [] = lead.toNat := by simp [codePoint, leadBits]
    rw [hcode, utf8EncodeChar_ofNat (.inl (by omega)), if_pos (by omega), UInt8.ofNat_toNat]
  · rw [isSecond_iff] at hb
    have hcode : codePoint lead [b] = (lead.toNat - 0xC0) * 64 + (b.toNat - 0x80) := by
      simp [codePoint, leadBits]
    rw [hcode, utf8EncodeChar_ofNat (.inl (by omega)), if_neg (by omega), if_pos (by omega)]
    simp only [List.cons.injEq, and_true, ← UInt8.toNat_inj, UInt8.toNat_ofNat']
    omega
  · rw [isSecond_iff] at hb₁
    rw [isContinuation_iff] at hb₂
    have hcode : codePoint lead [b₁, b₂] =
        ((lead.toNat - 0xE0) * 64 + (b₁.toNat - 0x80)) * 64 + (b₂.toNat - 0x80) := by
      simp [codePoint, leadBits]
    -- what may follow the lead byte 0xED keeps the code below the surrogates
    have hvalid : (((lead.toNat - 0xE0) * 64 + (b₁.toNat - 0x80)) * 64 +
        (b₂.toNat - 0x80)).isValidChar := by
      rw [Nat.isValidChar]
      omega
    rw [hcode, utf8EncodeChar_ofNat hvalid, if_neg (by omega), if_neg (by omega),
      if_pos (by omega)]
    simp only [List.cons.injEq, and_true, ← UInt8.toNat_inj, UInt8.toNat_ofNat']
    omega
  · rw [isSecond_iff] at hb₁
    rw [isContinuation_iff] at hb₂ hb₃
    have hcode : codePoint lead [b₁, b₂, b₃] =
        (((lead.toNat - 0xF0) * 64 + (b₁.toNat - 0x80)) * 64 + (b₂.toNat - 0x80)) * 64 +
          (b₃.toNat - 0x80) := by
      simp [codePoint, leadBits]
    -- what may follow the lead byte 0xF4 keeps the code within the last code point
    have hvalid : ((((lead.toNat - 0xF0) * 64 + (b₁.toNat - 0x80)) * 64 + (b₂.toNat - 0x80)) *
        64 + (b₃.toNat - 0x80)).isValidChar := by
      rw [Nat.isValidChar]
      omega
    rw [hcode, utf8EncodeChar_ofNat hvalid, if_neg (by omega), if_neg (by omega),
      if_neg (by omega)]
    simp only [List.cons.injEq, and_true, ← UInt8.toNat_inj, UInt8.toNat_ofNat']
    omega

/-- A character is encoded as a lead byte and the bytes that continue it, which hold its code. -/
theorem continues_of_encode (c : Char) :
    ∃ lead tail, String.utf8EncodeChar c = lead :: tail ∧ Continues lead tail ∧
      codePoint lead tail = c.toNat := by
  have hvalid : c.toNat.isValidChar := c.valid
  -- none of the numbers that the encoder makes bytes of is cut off
  have hbyte : ∀ n : Nat, n < 256 → (UInt8.ofNat n).toNat = n := fun n hn => by
    rw [UInt8.toNat_ofNat', Nat.mod_eq_of_lt hn]
  have hencode := utf8EncodeChar_ofNat hvalid
  rw [Char.ofNat_toNat] at hencode
  generalize c.toNat = n at hvalid hencode
  have hrange : n < 0xD800 ∨ 0xDFFF < n ∧ n < 0x110000 := hvalid
  split_ifs at hencode with h1 h2 h3
  · refine ⟨_, _, hencode, ⟨?_, ?_, ?_⟩, ?_⟩
    · have hlead := hbyte n (by omega)
      exact furtherBytes_eq_some_iff.2 (.inl ⟨rfl, by omega⟩)
    · simp
    · simp
    · simp [codePoint, leadBits]
      omega
  · have hlead := hbyte (n / 64 % 32 + 192) (by omega)
    have hb := hbyte (n % 64 + 128) (by omega)
    refine ⟨_, _, hencode, ⟨?_, ?_, ?_⟩, ?_⟩
    · exact furtherBytes_eq_some_iff.2 (.inr (.inl ⟨rfl, by omega⟩))
    · simp [isSecond_iff]
      omega
    · simp
    · simp [codePoint, leadBits]
      omega
  · have hlead := hbyte (n / 4096 % 16 + 224) (by omega)
    have hb₁ := hbyte (n / 64 % 64 + 128) (by omega)
    have hb₂ := hbyte (n % 64 + 128) (by omega)
    refine ⟨_, _, hencode, ⟨?_, ?_, ?_⟩, ?_⟩
    · exact furtherBytes_eq_some_iff.2 (.inr (.inr (.inl ⟨rfl, by omega⟩)))
    · simp [isSecond_iff]
      omega
    · simp [isContinuation_iff]
      omega
    · simp [codePoint, leadBits]
      omega
  · have hlead := hbyte (n / 262144 % 8 + 240) (by omega)
    have hb₁ := hbyte (n / 4096 % 64 + 128) (by omega)
    have hb₂ := hbyte (n / 64 % 64 + 128) (by omega)
    have hb₃ := hbyte (n % 64 + 128) (by omega)
    refine ⟨_, _, hencode, ⟨?_, ?_, ?_⟩, ?_⟩
    · exact furtherBytes_eq_some_iff.2 (.inr (.inr (.inr ⟨rfl, by omega⟩)))
    · simp [isSecond_iff]
      omega
    · simp [isContinuation_iff]
      omega
    · simp [codePoint, leadBits]
      omega

/-! ## Pieces -/

theorem continuation_isPrefix (lead : UInt8) (rest : Bytes) : continuation lead rest <+: rest := by
  unfold continuation
  split
  · split
    · refine List.cons_prefix_cons.2 ⟨rfl, ?_⟩
      exact (List.takeWhile_prefix _).trans (List.take_prefix _ _)
    · exact List.nil_prefix
  · exact List.nil_prefix

/-- Bytes that continue a character are found in front of any others. -/
theorem Continues.continuation_append {lead : UInt8} {tail : Bytes} (h : Continues lead tail)
    (rest : Bytes) : continuation lead (tail ++ rest) = tail := by
  obtain ⟨hannounced, hsecond, hfurther⟩ := h
  unfold continuation
  rw [hannounced]
  cases tail with
  | nil => rfl
  | cons b more =>
    have hmore : more.takeWhile isContinuation = more := List.takeWhile_eq_self_iff.2 hfurther
    simp [hsecond b rfl, hmore]

/-- What is found behind a lead byte continues it, if it is all that the lead byte announces. -/
theorem continues_continuation {lead : UInt8} {rest : Bytes}
    (h : furtherBytes lead = some (continuation lead rest).length) :
    Continues lead (continuation lead rest) := by
  refine ⟨h, ?_, ?_⟩
  · intro b hb
    unfold continuation at hb
    split at hb
    · split at hb
      · obtain rfl : _ = b := Option.some.inj hb
        assumption
      · cases hb
    · cases hb
  · intro b hb
    unfold continuation at hb
    split at hb
    · split at hb
      · exact List.mem_takeWhile_imp hb
      · cases hb
    · cases hb

theorem piecesFrom_skip (found : List (Option Char)) (skip : Nat) (bytes : Bytes) :
    piecesFrom found skip bytes = piecesFrom found 0 (bytes.drop skip) := by
  induction bytes generalizing skip with
  | nil => cases skip <;> simp [piecesFrom]
  | cons b bytes ih =>
    cases skip with
    | zero => rfl
    | succ skip => simpa [piecesFrom] using ih skip

theorem piecesFrom_found (found : List (Option Char)) (skip : Nat) (bytes : Bytes) :
    piecesFrom found skip bytes = found.reverse ++ piecesFrom [] skip bytes := by
  induction bytes generalizing found skip with
  | nil => cases skip <;> simp [piecesFrom]
  | cons b bytes ih =>
    cases skip with
    | zero =>
      simp only [piecesFrom]
      rw [ih, ih [_]]
      simp
    | succ skip => simpa [piecesFrom] using ih found skip

@[simp] theorem pieces_nil : pieces [] = [] := rfl

/-- The first piece is that of the first byte with all that continues it. -/
theorem pieces_cons (lead : UInt8) (rest : Bytes) :
    pieces (lead :: rest) = piece lead (continuation lead rest) ::
      pieces (rest.drop (continuation lead rest).length) := by
  rw [pieces, piecesFrom, piecesFrom_skip, piecesFrom_found]
  rfl

theorem pieces_eq_nil_iff {bytes : Bytes} : pieces bytes = [] ↔ bytes = [] := by
  cases bytes with
  | nil => simp
  | cons lead rest => simp [pieces_cons]

theorem pieces_encodeChar_append (c : Char) (rest : Bytes) :
    pieces (String.utf8EncodeChar c ++ rest) = some c :: pieces rest := by
  obtain ⟨lead, tail, hencode, hcontinues, hcode⟩ := continues_of_encode c
  have hpiece : piece lead tail = some c :=
    piece_eq_some_iff.2 ⟨hcontinues.announced, by rw [hcode, Char.ofNat_toNat]⟩
  rw [hencode, List.cons_append, pieces_cons, hcontinues.continuation_append, hpiece,
    List.drop_left]

/-- The characters of an encoded text are pieces in front of any other bytes. -/
theorem pieces_encodeChars_append (text : List Char) (rest : Bytes) :
    pieces (encodeChars text ++ rest) = text.map some ++ pieces rest := by
  induction text with
  | nil => rfl
  | cons c text ih =>
    rw [encodeChars_cons, List.append_assoc, pieces_encodeChar_append, ih]
    rfl

/-- The pieces of an encoded text are its characters. -/
theorem pieces_encodeChars (text : List Char) : pieces (encodeChars text) = text.map some := by
  simpa using pieces_encodeChars_append text []

/-- A character that is the first piece stands in front of the bytes. -/
theorem exists_of_pieces_eq_cons {bytes : Bytes} {c : Char} {back : List (Option Char)}
    (h : pieces bytes = some c :: back) :
    ∃ rest, bytes = String.utf8EncodeChar c ++ rest ∧ pieces rest = back := by
  cases bytes with
  | nil => cases h
  | cons lead rest =>
    rw [pieces_cons, List.cons.injEq] at h
    obtain ⟨hfirst, hback⟩ := h
    obtain ⟨hannounced, rfl⟩ := piece_eq_some_iff.1 hfirst
    have hencode := encode_of_continues (continues_continuation hannounced)
    refine ⟨_, ?_, hback⟩
    rw [hencode, List.cons_append, List.prefix_iff_eq_append.1 (continuation_isPrefix lead rest)]

theorem encodeChars_prefix_of_pieces {bytes : Bytes} {text : List Char} {back : List (Option Char)}
    (h : pieces bytes = text.map some ++ back) : encodeChars text <+: bytes := by
  induction text generalizing bytes with
  | nil => exact List.nil_prefix
  | cons c text ih =>
    obtain ⟨rest, rfl, hrest⟩ := exists_of_pieces_eq_cons h
    rw [encodeChars_cons, List.prefix_append_right_inj]
    exact ih hrest

/-- Characters that are neighbouring pieces stand side by side among the bytes. -/
theorem encodeChars_infix_of_pieces {bytes : Bytes} {text : List Char}
    {front back : List (Option Char)}
    (h : pieces bytes = front ++ (text.map some ++ back)) : encodeChars text <:+: bytes := by
  induction front generalizing bytes with
  | nil => exact (encodeChars_prefix_of_pieces h).isInfix
  | cons first front ih =>
    cases bytes with
    | nil => cases h
    | cons lead rest =>
      rw [pieces_cons, List.cons_append, List.cons.injEq] at h
      have hlater : encodeChars text <:+: rest :=
        (ih h.2).trans (List.drop_suffix _ rest).isInfix
      exact hlater.trans (List.suffix_cons lead rest).isInfix

/-- Bytes whose pieces are all characters are the encoding of these. -/
theorem eq_encodeChars_of_pieces {bytes : Bytes} {text : List Char}
    (h : pieces bytes = text.map some) : bytes = encodeChars text := by
  induction text generalizing bytes with
  | nil => exact pieces_eq_nil_iff.1 h
  | cons c text ih =>
    obtain ⟨rest, rfl, hrest⟩ := exists_of_pieces_eq_cons h
    rw [encodeChars_cons, ih hrest]

/-! ## Texts -/

theorem map_some_filterMap {found : List (Option Char)} (h : found.all Option.isSome = true) :
    (found.filterMap id).map some = found := by
  induction found with
  | nil => rfl
  | cons piece found ih =>
    obtain ⟨hpiece, hfound⟩ := by simpa only [List.all_cons, Bool.and_eq_true] using h
    obtain ⟨c, rfl⟩ := Option.isSome_iff_exists.1 hpiece
    simpa using ih hfound

/-- Bytes are read as a text exactly if they are its encoding. -/
theorem decode?_eq_some_iff {bytes : Bytes} {text : String} :
    decode? bytes = some text ↔ bytes = encode text := by
  unfold decode?
  constructor
  · intro h
    obtain ⟨hall, htext⟩ := Option.ite_none_right_eq_some.1 h
    obtain rfl := Option.some.inj htext
    rw [encode, String.toList_ofList]
    exact eq_encodeChars_of_pieces (map_some_filterMap hall).symm
  · rintro rfl
    rw [encode, pieces_encodeChars]
    simp

@[simp] theorem decode?_encode (text : String) : decode? (encode text) = some text :=
  decode?_eq_some_iff.2 rfl

@[simp] theorem decodeLossy_encode (text : String) : decodeLossy (encode text) = text := by
  rw [decodeLossy, encode, pieces_encodeChars, List.map_map]
  exact (congrArg String.ofList (List.map_id _)).trans String.ofList_toList

theorem decodeLossy_eq_empty_iff {bytes : Bytes} : decodeLossy bytes = "" ↔ bytes = [] := by
  rw [decodeLossy, String.ofList_eq_empty_iff, List.map_eq_nil_iff, pieces_eq_nil_iff]

/-- Pieces that are shown as a text without U+FFFD are its characters. -/
theorem eq_map_some_of_shown {found : List (Option Char)} {text : List Char}
    (h : found.map (·.getD replacement) = text) (hvalid : replacement ∉ text) :
    found = text.map some := by
  rw [← h, List.map_map]
  refine (List.map_id _).symm.trans (List.map_congr_left fun piece hpiece => ?_)
  cases piece with
  | some c => rfl
  | none =>
    -- an invalid part would be shown
    have hshown : replacement ∈ found.map (·.getD replacement) :=
      List.mem_map.2 ⟨none, hpiece, rfl⟩
    exact absurd (h ▸ hshown) hvalid

/-- A text without U+FFFD is shown for its own encoding alone. -/
theorem eq_encode_of_decodeLossy {bytes : Bytes} {text : String} (h : decodeLossy bytes = text)
    (hvalid : replacement ∉ text.toList) : bytes = encode text := by
  have htext : (pieces bytes).map (·.getD replacement) = text.toList := by
    rw [← h, decodeLossy, String.toList_ofList]
  exact eq_encodeChars_of_pieces (eq_map_some_of_shown htext hvalid)

/-- The bytes of a character among the pieces stand among the bytes. -/
theorem mem_of_mem_pieces {c : Char} {b : UInt8} {bytes : Bytes} (h : some c ∈ pieces bytes)
    (hb : b ∈ String.utf8EncodeChar c) : b ∈ bytes := by
  obtain ⟨front, back, hpieces⟩ := List.append_of_mem h
  have hinfix : encodeChars [c] <:+: bytes := encodeChars_infix_of_pieces hpieces
  refine hinfix.subset ?_
  rw [encodeChars_cons]
  exact List.mem_append_left _ hb

/-- An ASCII character is shown only where its byte stands. -/
theorem mem_of_mem_decodeLossy {c : Char} {b : UInt8} {bytes : Bytes} (hb : b.toNat < 0x80)
    (hc : b.toNat = c.toNat) (h : c ∈ (decodeLossy bytes).toList) : b ∈ bytes := by
  rw [decodeLossy, String.toList_ofList] at h
  obtain ⟨piece, hpiece, rfl⟩ := List.mem_map.1 h
  cases piece with
  | some c =>
    have hencode : String.utf8EncodeChar c = [b] := utf8EncodeChar_of_toNat_eq hb hc
    refine mem_of_mem_pieces hpiece ?_
    rw [hencode]
    exact List.mem_singleton_self b
  | none =>
    have hcode : replacement.toNat = 0xFFFD := by decide
    simp only [Option.getD_none] at hc
    omega

end TestRig.Text
