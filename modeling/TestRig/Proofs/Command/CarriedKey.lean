/-
  TestRig.Proofs.Command.CarriedKey

  Keys that a variable of the environment carries.  The text of a key is read from the
  variable exactly if the value, trimmed, is the base64 form of the bytes of that text
  (`carried_key_read_iff_written`).  Any other value is refused as no base64, and nothing
  else is refused in these words.
-/
import TestRig.Digest.Basic
import TestRig.Machine.Remote
import TestRig.Proofs.Text.Base64
import TestRig.Proofs.Text.Decoding

namespace TestRig.Command.PrivateKey

open Text
open Text.Base64 (alphabet bitsOf digit sextets)

/-! ## Reading a value -/

/-- A value carries a text exactly if, trimmed, it is the base64 form of its bytes. -/
theorem decodeCarried?_eq_some_iff {value text : String} :
    decodeCarried? value = some text ↔ trim value = Base64.encode (encode text) := by
  rw [decodeCarried?, Option.bind_eq_some_iff]
  constructor
  · rintro ⟨bytes, hbytes, htext⟩
    rw [Base64.decode?_eq_some_iff] at hbytes
    rw [Text.decode?_eq_some_iff] at htext
    rw [trim, hbytes, htext, Base64.encode]
  · intro h
    have hchars : trimChars value.toList = Base64.encodeChars (encode text) := by
      rw [← toList_trim, h, Base64.encode, String.toList_ofList]
    exact ⟨encode text, Base64.decode?_eq_some_iff.2 hchars, Text.decode?_eq_some_iff.2 rfl⟩

theorem decodeCarried?_eq_none_iff {value : String} :
    decodeCarried? value = none ↔ ∀ text, trim value ≠ Base64.encode (encode text) := by
  rw [Option.eq_none_iff_forall_ne_some]
  exact forall_congr' fun text => not_congr decodeCarried?_eq_some_iff

/-! ## Loading the key -/

variable {m : Machine} {name value : String}

theorem loadCredential_envKey (h : m.setting? name = some value) :
    m.loadCredential (.envKey name) =
      match decodeCarried? value with
      | some text => Machine.checkKey text
      | none => .error "invalid base64 encoding" := by
  simp only [Machine.loadCredential, h]
  rfl

/-- A key text that cannot be used is refused in other words. -/
theorem checkKey_ne (text : String) : Machine.checkKey text ≠ .error "invalid base64 encoding" := by
  unfold Machine.checkKey
  cases check text with
  | ok _ => exact nofun
  | error fault =>
    intro h
    have hmessage : "invalid private key: " ++ fault.message = "invalid base64 encoding" :=
      Except.error.inj h
    cases fault with
    | unreadable => exact absurd hmessage (by decide)
    | locked => exact absurd hmessage (by decide)

/-- A value carries a text exactly if, with the white space around it cut off, it is what the bytes of
the text are written as in base64: their bits, six at a time, in the digits of the alphabet, and
padding.  A key that a variable is to carry is refused as no base64 for just those values that carry
no text. -/
theorem carried_key_read_iff_written (value : String) :
    (∀ text algorithm, decodeCarried? value = some text ↔
      trim value = (Digest.mk algorithm (encode text)).toBase64) ∧
    (∀ algorithm bytes, (Digest.mk algorithm bytes).toBase64.toList =
      (sextets (bytes.flatMap bitsOf)).map digit ++
        List.replicate ((3 - bytes.length % 3) % 3) '=') ∧
    alphabet = (List.range 64).map digit ∧
    ∀ (m : Machine) name, m.setting? name = some value →
      (m.loadCredential (.envKey name) = .error "invalid base64 encoding" ↔
        ∀ text algorithm, trim value ≠ (Digest.mk algorithm (encode text)).toBase64) := by
  refine ⟨fun text algorithm => decodeCarried?_eq_some_iff, ?_, Base64.alphabet_eq, ?_⟩
  · intro algorithm bytes
    rw [Digest.toBase64, Base64.encode, String.toList_ofList, Base64.encodeChars_eq_sextets]
  · intro m name hvalue
    have hnone : (∀ text algorithm, trim value ≠ (Digest.mk algorithm (encode text)).toBase64) ↔
        decodeCarried? value = none := by
      rw [decodeCarried?_eq_none_iff]
      exact forall_congr' fun text => ⟨fun h => h .md5, fun h _ => h⟩
    rw [hnone, loadCredential_envKey hvalue]
    cases hcarried : decodeCarried? value with
    | some text => exact iff_of_false (checkKey_ne text) nofun
    | none => exact iff_of_true rfl rfl

/-- The bits left over by the padding have to be zero, so only one of these values carries a text. -/
theorem carried_key_read_iff_written_bits_left_over :
    decodeCarried? "\u3000aGk=\r\n" = some "hi" ∧
    (Machine.fresh.withVariable "KEY" "\u3000aGl=\r\n").loadCredential (.envKey "KEY") =
      .error "invalid base64 encoding" := by
  have hset : (Machine.fresh.withVariable "KEY" "\u3000aGl=\r\n").setting? "KEY" =
      some "\u3000aGl=\r\n" := by decide
  have hnone : decodeCarried? "\u3000aGl=\r\n" = none := by decide
  refine ⟨((carried_key_read_iff_written _).1 "hi" .sha256).2 (by decide), ?_⟩
  refine ((carried_key_read_iff_written _).2.2.2 _ _ hset).2 ?_
  intro text algorithm hwritten
  rw [((carried_key_read_iff_written _).1 text algorithm).2 hwritten] at hnone
  cases hnone

end TestRig.Command.PrivateKey
