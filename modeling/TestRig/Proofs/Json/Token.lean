/-
  TestRig.Proofs.Json.Token

  The reader inverts the spelling of tokens.  A token is read back wherever no word
  stands open that it would lengthen (`Reader.Behind.foldlM_spell`).  `Spells` says when a
  text spells tokens, with white space between them as it likes; the reader finds in it
  just these tokens (`Spells.tokens?_eq`).  Numbers that are no integers are kept as they
  were written and are left out here.
-/
import TestRig.Json.Token
import Mathlib.Data.List.Basic
import Mathlib.Data.List.TakeWhile

namespace TestRig.Json

/-! ## Decimal digits -/

theorem isDigit_of_mem_toDigits {n : Nat} {c : Char} (h : c ∈ Nat.toDigits 10 n) :
    c.isDigit = true :=
  Nat.isDigit_of_mem_toDigits (by decide) (by decide) h

/-- The digits of a positive number begin with a digit other than zero. -/
theorem head?_toDigits_ne_zero {n : Nat} (h : 0 < n) :
    (Nat.toDigits 10 n).head? ≠ some '0' := by
  induction n using Nat.strong_induction_on with
  | _ n ih =>
    rcases Nat.lt_or_ge n 10 with hlow | hhigh
    · have hsingle : ∀ d < 10, 0 < d → [d.digitChar].head? ≠ some '0' := by decide
      rw [Nat.toDigits_of_lt_base hlow]
      exact hsingle n hlow h
    · rw [Nat.toDigits_of_base_le (by decide) hhigh,
        List.head?_append_of_ne_nil _ Nat.toDigits_ne_nil]
      exact ih (n / 10) (by omega) (by omega)

theorem isWholePart_cons {c : Char} {rest : List Char} (hzero : c ≠ '0')
    (hdigit : ∀ d ∈ c :: rest, d.isDigit = true) : isWholePart (c :: rest) = true := by
  rw [List.forall_mem_cons] at hdigit
  have hrest : rest.all Char.isDigit = true := List.all_eq_true.2 hdigit.2
  unfold isWholePart
  split
  · rfl
  · next heq =>
    cases heq
    rw [hdigit.1, hrest, decide_eq_true hzero]
    rfl
  · contradiction

/-- The digits of a number have no zero in front. -/
theorem isWholePart_toDigits (n : Nat) : isWholePart (Nat.toDigits 10 n) = true := by
  rcases Nat.eq_zero_or_pos n with rfl | hpos
  · decide
  · have hhead := head?_toDigits_ne_zero hpos
    have hdigit : ∀ c ∈ Nat.toDigits 10 n, c.isDigit = true := fun _ => isDigit_of_mem_toDigits
    cases hdigits : Nat.toDigits 10 n with
    | nil => exact absurd hdigits Nat.toDigits_ne_nil
    | cons c rest =>
      rw [hdigits] at hhead hdigit
      exact isWholePart_cons (fun hzero => hhead (congrArg some hzero)) hdigit

/-- The digits of a number are read as the number; minus zero is no integer. -/
theorem number?_toDigits {negative : Bool} {n : Nat} (h : negative = true → n ≠ 0) :
    number? negative (Nat.toDigits 10 n) = some (.int (if negative then -(n : Int) else n)) := by
  have hwhole : (Nat.toDigits 10 n).takeWhile Char.isDigit = Nat.toDigits 10 n :=
    List.takeWhile_eq_self_iff.2 fun _ => isDigit_of_mem_toDigits
  have htail : (Nat.toDigits 10 n).dropWhile Char.isDigit = [] :=
    List.dropWhile_eq_nil_iff.2 fun _ => isDigit_of_mem_toDigits
  have hminus : (!(negative && decide (n = 0))) = true := by
    cases negative with
    | false => rfl
    | true => rw [decide_eq_false (h rfl)]; rfl
  simp only [number?, hwhole, htail, Nat.ofDigitChars_ten_toDigits, isWholePart_toDigits]
  rw [hminus]
  rfl

/-! ## Words -/

/-- Is the token spelled as a word? -/
def Token.isWord : Token → Bool
  | .null | .bool _ | .int _ | .real _ => true
  | _ => false

/-- Is the token a number that is no integer? -/
def Token.isReal : Token → Bool
  | .real _ => true
  | _ => false

/-- A character that ends a word. -/
def isDelimiter (c : Char) : Bool := isSpace c || c = '"' || (single? c).isSome

theorem isDelimiter_eq_false_of_isDigit {c : Char} (h : c.isDigit = true) :
    isDelimiter c = false := by
  have hnot : ∀ d : Char, d.isDigit = false → c ≠ d := fun d hd heq => by
    rw [heq, hd] at h
    contradiction
  have hspace : isSpace c = false := by
    simp [isSpace, hnot]
  have hsingle : single? c = none := by
    unfold single?
    split <;> first | rfl | exact absurd rfl (hnot _ (by decide))
  rw [isDelimiter, hspace, hsingle, decide_eq_false (hnot '"' (by decide))]
  rfl

/-- A word that begins with a digit is a number. -/
theorem ofWord?_of_isDigit {c : Char} {rest : List Char} (h : c.isDigit = true) :
    Token.ofWord? (c :: rest) = number? false (c :: rest) := by
  unfold Token.ofWord?
  split
  all_goals first
    | rfl
    | next heq => exact absurd h (by rw [(List.cons.inj heq).1]; decide)

/-- The word of an integer is read as the integer. -/
theorem ofWord?_spellInt (n : Int) : Token.ofWord? (spellInt n) = some (.int n) := by
  cases n with
  | ofNat n =>
    have hnumber : number? false (Nat.toDigits 10 n) = some (.int n) := number?_toDigits nofun
    rw [spellInt]
    cases hdigits : Nat.toDigits 10 n with
    | nil => exact absurd hdigits Nat.toDigits_ne_nil
    | cons c rest =>
      have hc : c ∈ Nat.toDigits 10 n := hdigits ▸ List.mem_cons_self
      rw [ofWord?_of_isDigit (isDigit_of_mem_toDigits hc), ← hdigits, hnumber]
      rfl
  | negSucc n => exact number?_toDigits fun _ => Nat.succ_ne_zero n

/-- A word other than a number that is no integer is read as the token that it spells. -/
theorem ofWord?_spell {token : Token} (hword : token.isWord = true) (hreal : token.isReal = false) :
    Token.ofWord? token.spell = some token := by
  cases token with
  | null => rfl
  | bool b => cases b <;> rfl
  | int n => exact ofWord?_spellInt n
  | real text => contradiction
  | _ => contradiction

theorem Token.spell_ne_nil {token : Token} (hreal : token.isReal = false) : token.spell ≠ [] := by
  cases token with
  | real => contradiction
  | bool b => cases b <;> nofun
  | int n =>
    cases n with
    | ofNat n => exact Nat.toDigits_ne_nil
    | negSucc n => nofun
  | str text => cases text <;> nofun
  | _ => nofun

/-- A word holds no character that would end it. -/
theorem isDelimiter_eq_false_of_mem_spell {token : Token} (hword : token.isWord = true)
    (hreal : token.isReal = false) : ∀ c ∈ token.spell, isDelimiter c = false := by
  have hletters : ∀ text : List Char, text.any isDelimiter = false →
      ∀ c ∈ text, isDelimiter c = false :=
    fun text h c hc => Bool.eq_false_iff.2 (List.any_eq_false.1 h c hc)
  cases token with
  | null => exact hletters _ rfl
  | bool b => cases b <;> exact hletters _ rfl
  | int n =>
    intro c hc
    cases n with
    | ofNat n => exact isDelimiter_eq_false_of_isDigit (isDigit_of_mem_toDigits hc)
    | negSucc n =>
      rcases List.mem_cons.1 hc with rfl | hc
      · decide
      · exact isDelimiter_eq_false_of_isDigit (isDigit_of_mem_toDigits hc)
  | real text => contradiction
  | _ => contradiction

namespace Reader

/-- Where a word is open, characters that do not end it are added to it. -/
theorem foldlM_word {text : List Char} (h : ∀ c ∈ text, isDelimiter c = false)
    (found : List Token) (read : List Char) :
    text.foldlM step ⟨found, .word read⟩ = some ⟨found, .word (text.reverse ++ read)⟩ := by
  induction text generalizing read with
  | nil => rfl
  | cons c rest ih =>
    rw [List.forall_mem_cons] at h
    have hc : step ⟨found, .word read⟩ c = some ⟨found, .word (c :: read)⟩ := by
      rw [step]
      exact if_neg (by rw [← isDelimiter, h.1]; nofun)
    rw [List.foldlM_cons, hc, Option.bind_eq_bind, Option.bind_some, ih h.2, List.reverse_cons,
      List.append_assoc, List.singleton_append]

/-- Between tokens, a character that does not end a word opens one. -/
theorem stepBetween_word {c : Char} (h : isDelimiter c = false) (found : List Token) :
    stepBetween found c = ⟨found, .word [c]⟩ := by
  obtain ⟨hrest, hsingle⟩ := Bool.or_eq_false_iff.1 h
  obtain ⟨hspace, hquote⟩ := Bool.or_eq_false_iff.1 hrest
  have hnone : single? c = none :=
    Option.isNone_iff_eq_none.1 (Option.isSome_eq_false_iff.1 hsingle)
  rw [stepBetween, hspace, if_neg nofun, if_neg (of_decide_eq_false hquote), hnone]

/-- The reader with `found` behind it, once the word that may be open is closed. -/
def Behind (r : Reader) (found : List Token) : Prop := r.closeWord = some ⟨found, .between⟩

/-- A character that ends words is read as between tokens, whether or not it ends one. -/
theorem Behind.step {r : Reader} {found : List Token} (h : r.Behind found) {c : Char}
    (hc : isDelimiter c = true) : r.step c = some (stepBetween found c) := by
  obtain ⟨tokens, mode⟩ := r
  cases mode with
  | between =>
    cases h
    rfl
  | word read =>
    rw [Reader.step]
    refine (if_pos hc).trans ?_
    rw [h]
    rfl
  | string read at_ => cases h

theorem Behind.finish {r : Reader} {found : List Token} (h : r.Behind found) :
    r.finish = some found.reverse := by
  obtain ⟨tokens, mode⟩ := r
  cases mode with
  | string read at_ => cases h
  | between | word =>
    rw [Reader.finish, h]
    rfl

/-! ## Strings -/

section Strings

variable (found : List Token) (read : List Char)

theorem step_plain {c : Char} (hquote : c ≠ '"') (hbackslash : c ≠ '\\')
    (hplain : ¬ c.toNat < 0x20) :
    Reader.step ⟨found, .string (some read) (.plain none)⟩ c =
      some ⟨found, .string (some (c :: read)) (.plain none)⟩ := by
  simp only [Reader.step, stepString]
  rw [if_neg hquote, if_neg hbackslash, if_neg hplain]
  rfl

/-- The last two digits of an escape with four digits, for a code below 256. -/
theorem foldlM_digits {high low : Nat} (hhigh : high < 16) (hlow : low < 16) :
    [Text.Hex.digit high, Text.Hex.digit low].foldlM Reader.step
        ⟨found, .string (some read) (.code none 2 0)⟩ =
      some ⟨found, .string (some (Char.ofNat (high * 16 + low) :: read)) (.plain none)⟩ := by
  have hunit : addUnit none (some read) (high * 16 + low) =
      (none, some (Char.ofNat (high * 16 + low) :: read)) := by
    -- such a code is no surrogate
    rw [addUnit, decide_eq_false (by omega), Bool.false_and, if_neg Bool.false_ne_true,
      decide_eq_false (by omega), Bool.false_and, if_neg Bool.false_ne_true]
    rfl
  simp only [List.foldlM_cons, List.foldlM_nil, Reader.step, stepString,
    Text.Hex.value?_digit _ hhigh, Text.Hex.value?_digit _ hlow, Option.map_some,
    Option.bind_eq_bind, Option.bind_some, Nat.zero_mul, Nat.zero_add]
  rw [if_neg (by decide)]
  simp only [Option.bind_some, hunit]
  rfl

/-- What stands for a character in a string is read as the character. -/
theorem foldlM_spellChar (c : Char) :
    (spellChar c).foldlM Reader.step ⟨found, .string (some read) (.plain none)⟩ =
      some ⟨found, .string (some (c :: read)) (.plain none)⟩ := by
  unfold spellChar
  split
  -- only the last case is not settled by computing: a character as itself or as four digits
  case h_8 hquote hbackslash _ _ _ _ _ =>
    split
    · next hcontrol =>
      have hhigh : c.toNat / 16 < 16 := by omega
      have hlow : c.toNat % 16 < 16 := by omega
      have hdigits := foldlM_digits found read hhigh hlow
      rw [Nat.div_add_mod', Char.ofNat_toNat] at hdigits
      exact hdigits
    · next hplain =>
      rw [List.foldlM_cons, step_plain found read hquote hbackslash hplain]
      rfl
  all_goals rfl

theorem foldlM_spellChars (text : List Char) :
    (text.flatMap spellChar).foldlM Reader.step ⟨found, .string (some read) (.plain none)⟩ =
      some ⟨found, .string (some (text.reverse ++ read)) (.plain none)⟩ := by
  induction text generalizing read with
  | nil => rfl
  | cons c rest ih =>
    rw [List.flatMap_cons, List.foldlM_append, foldlM_spellChar, Option.bind_eq_bind,
      Option.bind_some, ih, List.reverse_cons, List.append_assoc, List.singleton_append]

end Strings

/-! ## Tokens -/

/-- Behind any token, a token that is no word is read back. -/
theorem Behind.foldlM_mark {r : Reader} {found : List Token} (h : r.Behind found) {token : Token}
    (hword : token.isWord = false) :
    token.spell.foldlM Reader.step r = some ⟨token :: found, .between⟩ := by
  cases token with
  | null | bool | int | real => contradiction
  | str text =>
    cases text with
    | none =>
      -- a high surrogate for which no low one comes
      rw [Token.spell, List.foldlM_cons, h.step (by decide)]
      rfl
    | some text =>
      have hquote : stepBetween found '"' = ⟨found, .string (some []) (.plain none)⟩ := rfl
      rw [Token.spell, spellString, List.cons_append, List.foldlM_cons, h.step (by decide), hquote,
        Option.bind_eq_bind, Option.bind_some, List.foldlM_append, foldlM_spellChars,
        Option.bind_eq_bind, Option.bind_some, List.append_nil]
      change some
        (⟨.str (some (String.ofList text.toList.reverse.reverse)) :: found, _⟩ : Reader) = _
      rw [List.reverse_reverse, String.ofList_toList]
  | _ =>
    rw [Token.spell, List.foldlM_cons, h.step (by decide)]
    rfl

/-- Between tokens, a word is read back; it stays open. -/
theorem foldlM_spell_word {token : Token} (hword : token.isWord = true)
    (hreal : token.isReal = false) (found : List Token) :
    ∃ r, token.spell.foldlM Reader.step ⟨found, .between⟩ = some r ∧ r.Behind (token :: found) := by
  have hplain := isDelimiter_eq_false_of_mem_spell hword hreal
  have hread := ofWord?_spell hword hreal
  cases hspell : token.spell with
  | nil => exact absurd hspell (Token.spell_ne_nil hreal)
  | cons c rest =>
    rw [hspell, List.forall_mem_cons] at hplain
    rw [hspell] at hread
    refine ⟨⟨found, .word (rest.reverse ++ [c])⟩, ?_, ?_⟩
    · rw [List.foldlM_cons, Reader.step]
      change (List.foldlM Reader.step (stepBetween found c) rest) = _
      rw [stepBetween_word hplain.1, foldlM_word hplain.2]
    · rw [Behind, closeWord]
      change (Token.ofWord? (rest.reverse ++ [c]).reverse).map _ = _
      rw [List.reverse_append, List.reverse_reverse, List.reverse_singleton,
        List.singleton_append, hread]
      rfl

/-- A token is read back when it does not lengthen the word that may be open; behind a token that
is no word, no word is open. -/
theorem Behind.foldlM_spell {r : Reader} {found : List Token} (h : r.Behind found) {token : Token}
    (hopen : r = ⟨found, .between⟩ ∨ token.isWord = false) (hreal : token.isReal = false) :
    ∃ r', token.spell.foldlM Reader.step r = some r' ∧ r'.Behind (token :: found) ∧
      (r' = ⟨token :: found, .between⟩ ∨ token.isWord = true) := by
  cases hword : token.isWord with
  | false => exact ⟨_, h.foldlM_mark hword, rfl, .inl rfl⟩
  | true =>
    rcases hopen with rfl | hmark
    · obtain ⟨r', hread, hbehind⟩ := foldlM_spell_word hword hreal found
      exact ⟨r', hread, hbehind, .inr rfl⟩
    · rw [hmark] at hword
      contradiction

end Reader

/-! ## Texts -/

/-- No word in front of the text would be lengthened by it. -/
def Delimited (text : List Char) : Prop := ∀ c ∈ text.head?, isDelimiter c = true

theorem delimited_spell_append (token : Token) (hword : token.isWord = false) (text : List Char) :
    Delimited (token.spell ++ text) := by
  cases token with
  | null | bool | int | real => contradiction
  | str s => cases s <;> · rintro _ ⟨⟩; decide
  | _ => rintro _ ⟨⟩; decide

theorem isWord_eq_false_of_delimited {token : Token} (hreal : token.isReal = false)
    {text : List Char} (h : Delimited (token.spell ++ text)) : token.isWord = false := by
  cases hword : token.isWord with
  | false => rfl
  | true =>
    have hplain := isDelimiter_eq_false_of_mem_spell hword hreal
    cases hspell : token.spell with
    | nil => exact absurd hspell (Token.spell_ne_nil hreal)
    | cons c rest =>
      rw [hspell] at h hplain
      have hc : isDelimiter c = true := h c rfl
      rw [hplain c List.mem_cons_self] at hc
      contradiction

/-- The text spells the tokens, with white space between them or none; behind a word there is white
space, a mark or the end. -/
inductive Spells : List Char → List Token → Prop where
  | nil : Spells [] []
  | space {c : Char} {text : List Char} {ts : List Token} (hspace : isSpace c = true)
      (h : Spells text ts) : Spells (c :: text) ts
  | token {token : Token} {text : List Char} {ts : List Token} (hreal : token.isReal = false)
      (hnext : token.isWord = true → Delimited text) (h : Spells text ts) :
      Spells (token.spell ++ text) (token :: ts)

namespace Spells

theorem mark (token : Token) (hword : token.isWord = false) {text : List Char} {ts : List Token}
    (h : Spells text ts) : Spells (token.spell ++ text) (token :: ts) := by
  refine .token ?_ (fun htrue => ?_) h
  · cases token <;> first | rfl | contradiction
  · rw [hword] at htrue
    contradiction

/-- From wherever the reader stands, unless the text would lengthen an open word. -/
theorem foldlM_eq {text : List Char} {ts : List Token} (h : Spells text ts) {r : Reader}
    {found : List Token} (hr : r.Behind found)
    (hopen : r = ⟨found, .between⟩ ∨ Delimited text) :
    ∃ r', text.foldlM Reader.step r = some r' ∧ r'.Behind (ts.reverse ++ found) := by
  induction h generalizing r found with
  | nil => exact ⟨r, rfl, hr⟩
  | @space c text ts hspace h ih =>
    -- white space ends the word that may be open
    have hdelimiter : isDelimiter c = true := by
      rw [isDelimiter, hspace, Bool.true_or, Bool.true_or]
    have hbetween : Reader.stepBetween found c = ⟨found, .between⟩ := if_pos hspace
    have hstart : Reader.Behind ⟨found, .between⟩ found := rfl
    obtain ⟨r', hread, hbehind⟩ := ih hstart (.inl rfl)
    refine ⟨r', ?_, hbehind⟩
    rw [List.foldlM_cons, hr.step hdelimiter, hbetween]
    exact hread
  | @token token text ts hreal hnext h ih =>
    -- the invariant goes on: either the token leaves no word open, or what follows ends it
    have hfirst := hopen.imp_right (isWord_eq_false_of_delimited hreal)
    obtain ⟨r₁, hread, hbehind, hclosed⟩ := hr.foldlM_spell hfirst hreal
    obtain ⟨r', hrest, hfound⟩ := ih hbehind (hclosed.imp_right hnext)
    refine ⟨r', ?_, ?_⟩
    · rw [List.foldlM_append, hread]
      exact hrest
    · rwa [List.reverse_cons, List.append_assoc, List.singleton_append]

/-- The reader finds the tokens that a text spells. -/
theorem tokens?_eq {text : List Char} {ts : List Token} (h : Spells text ts) :
    tokens? text = some ts := by
  have hstart : Reader.start.Behind [] := rfl
  obtain ⟨r, hread, hbehind⟩ := h.foldlM_eq hstart (.inl rfl)
  rw [tokens?, hread, Option.bind_some, hbehind.finish, List.append_nil, List.reverse_reverse]

end Spells

end TestRig.Json
