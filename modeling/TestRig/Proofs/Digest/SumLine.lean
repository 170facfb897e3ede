/-
  TestRig.Proofs.Digest.SumLine

  Digests read back from what is written of them.  The line of a checksum tool begins with
  the digits of the digest, and its first word is read (`ofSumLine?_word`); whatever path
  stands behind them, they are read as they were written (`sum_line_reads_back`).
-/
import TestRig.CommandLine.Run
import TestRig.Proofs.Text.Base64
import TestRig.Proofs.Text.Hex

namespace TestRig.Digest

open Text

/-! ## The first word of a line -/

/-- The first word of a line is read if it has hexadecimal digits alone. -/
theorem ofSumLine?_word {word rest : List Char} {blank : Char} (hne : word ≠ [])
    (hdigits : ∀ c ∈ word, Hex.isDigit c = true) (hblank : isBlank blank = true) :
    ofSumLine? (String.ofList (word ++ blank :: rest)) = some (String.ofList word) := by
  have hsolid : ∀ c ∈ word, isBlank c = false := fun c hc =>
    Hex.isBlank_eq_false_of_isDigit (hdigits c hc)
  -- nothing blank stands in front of the word
  have hfront : (word ++ blank :: rest).dropWhile isBlank = word ++ blank :: rest := by
    cases word with
    | nil => exact absurd rfl hne
    | cons c word =>
      have hc : isBlank c = false := hsolid c List.mem_cons_self
      rw [List.cons_append, List.dropWhile_cons_of_neg (by rw [hc]; decide)]
  have hword : (word ++ blank :: rest).takeWhile (!isBlank ·) = word := by
    rw [List.takeWhile_append_of_pos fun c hc => by rw [hsolid c hc]; rfl,
      List.takeWhile_cons_of_neg (by simp [hblank]), List.append_nil]
  have haccepted : (word.isEmpty || !word.all Hex.isDigit) = false := by
    rw [List.all_eq_true.2 hdigits]
    simp [hne]
  rw [ofSumLine?, String.toList_ofList]
  simp only [hfront, hword, haccepted]
  rfl

/-! ## What is written of a digest -/

variable (d : Digest)

theorem toList_toHex : d.toHex.toList = Hex.encodeChars d.bytes := by
  rw [toHex, Hex.encode, String.toList_ofList]

theorem toList_toBase64 : d.toBase64.toList = Base64.encodeChars d.bytes := by
  rw [toBase64, Base64.encode, String.toList_ofList]

/-- A line that begins with the digits and two spaces is read. -/
theorem ofSumLine?_toHex_append (hne : d.bytes ≠ []) (path : String) :
    ofSumLine? (d.toHex ++ "  " ++ path) = some d.toHex := by
  have hspaces : "  ".toList = [' ', ' '] := rfl
  have hline : d.toHex ++ "  " ++ path =
      String.ofList (Hex.encodeChars d.bytes ++ ' ' :: (' ' :: path.toList)) := by
    rw [← String.toList_inj, String.toList_ofList, String.toList_append, String.toList_append,
      toList_toHex, hspaces, List.append_assoc]
    rfl
  have hdigits : Hex.encodeChars d.bytes ≠ [] := by
    intro hnil
    have hlength := Hex.length_encodeChars d.bytes
    rw [hnil, List.length_nil] at hlength
    exact hne (List.eq_nil_of_length_eq_zero (by omega))
  rw [hline, ofSumLine?_word hdigits (fun _ => Hex.isDigit_of_mem_encodeChars) (by decide)]
  rfl

/-- Digests are written alike exactly if they have the same bytes. -/
theorem toHex_eq_iff (e : Digest) : d.toHex = e.toHex ↔ d.bytes = e.bytes := by
  rw [← String.toList_inj, toList_toHex, toList_toHex, Hex.encodeChars_injective.eq_iff]

theorem toBase64_eq_iff (e : Digest) : d.toBase64 = e.toBase64 ↔ d.bytes = e.bytes := by
  rw [← String.toList_inj, toList_toBase64, toList_toBase64, Base64.encodeChars_injective.eq_iff]

/-! ## The lines that are printed -/

theorem length_bytesOf (order : ByteOrder) (count n : Nat) :
    (order.bytesOf count n).length = count := by
  cases order <;> simp [ByteOrder.bytesOf]

/-- The digest of a message has bytes. -/
theorem bytes_ofMessage_ne_nil (algorithm : Algorithm) (message : Bytes) :
    (ofMessage algorithm message).bytes ≠ [] := by
  apply List.ne_nil_of_length_pos
  cases algorithm with
  | md5 => simp [ofMessage, Algorithm.apply, Md5.digest, length_bytesOf]
  | sha256 => simp [ofMessage, Algorithm.apply, Sha256.digest, length_bytesOf]

/-- What the program prints of a file begins with the line of its digest. -/
theorem perform_digest {m : Machine} {path : String} {algorithm : Algorithm} {d : Digest}
    (h : Files.digest m.files path algorithm = .ok d) (config : Config) (seed : UInt64) :
    d.bytes ≠ [] ∧ (CommandLine.perform m config seed (.digest path algorithm)).1 =
      .ok (d.toHex ++ "  " ++ (path ++ "\n" ++ (d.toBase64 ++ "\n"))) := by
  constructor
  · unfold Files.digest at h
    cases hread : Files.onPath path (m.files.read (encode path)) with
    | error e =>
      rw [hread] at h
      cases h
    | ok message =>
      rw [hread] at h
      obtain rfl := Except.ok.inj h
      exact bytes_ofMessage_ne_nil algorithm message
  · simp only [CommandLine.perform, CommandLine.answer, CommandLine.line, h, String.append_assoc]

/-- Digests read back.  Whatever path stands behind its digits in a line, the digits of a digest with
bytes are what is read of the line; so it is with what the program prints of a file.  There are two
digits for each byte, lower-case ones alone, and just these digits, in either case, are read as the
bytes, two at a time.  The base64 form is read as the bytes too, so two digests are written alike in
either form exactly if their bytes are the same. -/
theorem sum_line_reads_back (d : Digest) :
    (d.bytes ≠ [] → ∀ path, ofSumLine? (d.toHex ++ "  " ++ path) = some d.toHex) ∧
    (∀ m config seed path algorithm, Files.digest m.files path algorithm = .ok d →
      ∃ output, (CommandLine.perform m config seed (.digest path algorithm)).1 = .ok output ∧
        ofSumLine? output = some d.toHex) ∧
    d.toHex.length = 2 * d.bytes.length ∧
    (∀ c ∈ d.toHex.toList, c ∈ "0123456789abcdef".toList) ∧
    Hex.decode? d.toHex.toList = some d.bytes ∧
    (∀ digits, Hex.decode? digits = some d.bytes ↔ digits.map Char.toLower = d.toHex.toList) ∧
    Base64.decode? d.toBase64.toList = some d.bytes ∧
    ∀ e : Digest, (d.toHex = e.toHex ↔ d.bytes = e.bytes) ∧
      (d.toBase64 = e.toBase64 ↔ d.bytes = e.bytes) := by
  refine ⟨ofSumLine?_toHex_append d, ?_, ?_, ?_, ?_, ?_, ?_,
    fun e => ⟨toHex_eq_iff d e, toBase64_eq_iff d e⟩⟩
  · intro m config seed path algorithm h
    obtain ⟨hne, hprinted⟩ := perform_digest h config seed
    exact ⟨_, hprinted, ofSumLine?_toHex_append d hne _⟩
  · rw [← String.length_toList, toList_toHex, Hex.length_encodeChars]
  · intro c hc
    rw [toList_toHex] at hc
    obtain ⟨n, hn, rfl⟩ := Hex.exists_digit_of_mem_encodeChars hc
    exact Hex.digit_mem_alphabet hn
  · rw [toList_toHex, Hex.decode?_encodeChars]
  · intro digits
    rw [toList_toHex, Hex.decode?_eq_some_iff]
  · rw [toList_toBase64, Base64.decode?_encodeChars]

/-- A leading zero stays, and a path of several lines that could be digits is left out. -/
theorem sum_line_reads_back_leading_zero :
    ofSumLine? "0a9fff  00 ff\n\tab" = some "0a9fff" ∧
    Hex.decode? ['0', 'A', '9', 'f', 'F', 'f'] = some [0x0A, 0x9F, 0xFF] := by
  have hline : (⟨.md5, [0x0A, 0x9F, 0xFF]⟩ : Digest).toHex ++ "  " ++ "00 ff\n\tab" =
      "0a9fff  00 ff\n\tab" := by decide
  have hread := (sum_line_reads_back ⟨.md5, [0x0A, 0x9F, 0xFF]⟩).1 (by decide) "00 ff\n\tab"
  rw [hline] at hread
  exact ⟨hread, ((sum_line_reads_back ⟨.md5, [0x0A, 0x9F, 0xFF]⟩).2.2.2.2.2.1 _).2 (by decide)⟩

end TestRig.Digest
