/-
  TestRig.Json.Token

  The tokens of JSON text: their spelling, and the reading of text as tokens.  The
  reader goes through the text once, character by character.  Outside strings a
  character is white space, a token of its own, or part of a word; a word is the
  longest run of other characters and must be a keyword or a number.
-/
import TestRig.Text.Hex

namespace TestRig.Json

/-- A token of JSON text. -/
inductive Token where
  | openBrace
  | closeBrace
  | openBracket
  | closeBracket
  | colon
  | comma
  | null
  | bool (value : Bool)
  | int (value : Int)
  | real (text : String)
  | str (value : Option String)
  deriving DecidableEq

/-! ## Spelling -/

/-- A character between the quotes of a string. -/
def spellChar (c : Char) : List Char :=
  match c with
  | '"' => ['\\', '"']
  | '\\' => ['\\', '\\']
  | '\n' => ['\\', 'n']
  | '\r' => ['\\', 'r']
  | '\t' => ['\\', 't']
  | '\x08' => ['\\', 'b']
  | '\x0c' => ['\\', 'f']
  | _ =>
    if c.toNat < 0x20 then
      ['\\', 'u', '0', '0', Text.Hex.digit (c.toNat / 16), Text.Hex.digit (c.toNat % 16)]
    else [c]

/-- A string between quotes. -/
def spellString (text : List Char) : List Char := '"' :: text.flatMap spellChar ++ ['"']

/-- The digits of an integer, behind a minus sign if it is negative. -/
def spellInt : Int → List Char
  | .ofNat n => Nat.toDigits 10 n
  | .negSucc n => '-' :: Nat.toDigits 10 (n + 1)

/-- The spelling of a token. -/
def Token.spell : Token → List Char
  | .openBrace => ['\x7b']
  | .closeBrace => ['\x7d']
  | .openBracket => ['[']
  | .closeBracket => [']']
  | .colon => [':']
  | .comma => [',']
  | .null => ['n', 'u', 'l', 'l']
  | .bool true => ['t', 'r', 'u', 'e']
  | .bool false => ['f', 'a', 'l', 's', 'e']
  | .int n => spellInt n
  | .real text => text.toList
  | .str (some text) => spellString text.toList
  | .str none => ['"', '\\', 'u', 'd', '8', '0', '0', '"']

/-! ## Words -/

/-- Digits only, at least one, and no zero in front of another digit. -/
def isWholePart : List Char → Bool
  | ['0'] => true
  | c :: rest => c ≠ '0' && c.isDigit && rest.all Char.isDigit
  | [] => false

/-- Digits only, and at least one. -/
def isDigits (text : List Char) : Bool := !text.isEmpty && text.all Char.isDigit

/-- The exponent of a number: a mark, a sign or none, and digits; or nothing at all. -/
def isExponent : List Char → Bool
  | [] => true
  | mark :: rest =>
    (mark = 'e' || mark = 'E') &&
      match rest with
      | '+' :: digits => isDigits digits
      | '-' :: digits => isDigits digits
      | digits => isDigits digits

/-- What follows the whole part of a number: a fraction, an exponent, both or neither. -/
def isNumberTail : List Char → Bool
  | '.' :: rest =>
    isDigits (rest.takeWhile Char.isDigit) && isExponent (rest.dropWhile Char.isDigit)
  | rest => isExponent rest

/-- A number without its sign. -/
def number? (negative : Bool) (text : List Char) : Option Token :=
  let whole := text.takeWhile Char.isDigit
  let tail := text.dropWhile Char.isDigit
  if isWholePart whole && isNumberTail tail then
    let value := Nat.ofDigitChars 10 whole 0
    if tail.isEmpty && !(negative && value = 0) then
      some (.int (if negative then -(value : Int) else value))
    else some (.real (String.ofList (if negative then '-' :: text else text)))
  else none

/-- The token that a word spells: a keyword or a number. -/
def Token.ofWord? : List Char → Option Token
  | ['n', 'u', 'l', 'l'] => some .null
  | ['t', 'r', 'u', 'e'] => some (.bool true)
  | ['f', 'a', 'l', 's', 'e'] => some (.bool false)
  | '-' :: rest => number? true rest
  | word => number? false word

/-! ## Strings -/

/-- The state inside a string: what was read of it, last character first (`none` once an escape
named half a surrogate pair), and what is still open. -/
inductive Within where
  /-- A plain character may come, behind a high surrogate if one waits for its partner. -/
  | plain (high : Option Nat)
  /-- A backslash stands in front. -/
  | escape (high : Option Nat)
  /-- `\u` and some hexadecimal digits stand in front, whose value so far is given. -/
  | code (high : Option Nat) (digits value : Nat)

/-- The character that a letter behind a backslash stands for. -/
def escaped? : Char → Option Char
  | '"' => some '"'
  | '\\' => some '\\'
  | '/' => some '/'
  | 'b' => some '\x08'
  | 'f' => some '\x0c'
  | 'n' => some '\n'
  | 'r' => some '\r'
  | 't' => some '\t'
  | _ => none

/-- Adds a character to the text read so far; a high surrogate that waited has found no partner. -/
def addChar (high : Option Nat) (read : Option (List Char)) (c : Char) : Option (List Char) :=
  if high.isSome then none else read.map (c :: ·)

/-- Adds a code unit that an escape named.  The result holds the high surrogate that now waits. -/
def addUnit (high : Option Nat) (read : Option (List Char)) (unit : Nat) :
    Option Nat × Option (List Char) :=
  -- a high surrogate waits for a low one; one that waits already has no partner
  if 0xD800 ≤ unit && unit < 0xDC00 then
    (some unit, if high.isSome then none else read)
  else if 0xDC00 ≤ unit && unit < 0xE000 then
    match high with
    | some h =>
      (none, read.map (Char.ofNat (0x10000 + (h - 0xD800) * 0x400 + (unit - 0xDC00)) :: ·))
    | none => (none, none)
  else (none, addChar high read (Char.ofNat unit))

/-! ## The reader -/

/-- Where the reader stands: between tokens, in a word (last character first) or in a string. -/
inductive Mode where
  | between
  | word (read : List Char)
  | string (read : Option (List Char)) (at_ : Within)

/-- The reader: the tokens found so far, last one first, and where it stands. -/
structure Reader where
  found : List Token
  mode : Mode

/-- The reader in front of a text. -/
def Reader.start : Reader := ⟨[], .between⟩

/-- White space between tokens. -/
def isSpace (c : Char) : Bool := c = ' ' || c = '\t' || c = '\n' || c = '\r'

/-- The token that a character spells by itself. -/
def single? : Char → Option Token
  | '\x7b' => some .openBrace
  | '\x7d' => some .closeBrace
  | '[' => some .openBracket
  | ']' => some .closeBracket
  | ':' => some .colon
  | ',' => some .comma
  | _ => none

/-- Reads a character outside strings, when no word is open. -/
def Reader.stepBetween (found : List Token) (c : Char) : Reader :=
  if isSpace c then ⟨found, .between⟩
  else if c = '"' then ⟨found, .string (some []) (.plain none)⟩
  else match single? c with
    | some token => ⟨token :: found, .between⟩
    | none => ⟨found, .word [c]⟩

/-- Closes the word that may be open. -/
def Reader.closeWord (r : Reader) : Option Reader :=
  match r.mode with
  | .word read => (Token.ofWord? read.reverse).map fun token => ⟨token :: r.found, .between⟩
  | _ => some r

/-- Reads a character inside a string; `none` when it cannot stand there. -/
def Reader.stepString (found : List Token) (read : Option (List Char)) (c : Char) :
    Within → Option Reader
  | .plain high =>
    if c = '"' then
      let text := if high.isSome then none else read
      some ⟨.str (text.map fun cs => String.ofList cs.reverse) :: found, .between⟩
    else if c = '\\' then some ⟨found, .string read (.escape high)⟩
    else if c.toNat < 0x20 then none
    else some ⟨found, .string (addChar high read c) (.plain none)⟩
  | .escape high =>
    if c = 'u' then some ⟨found, .string read (.code high 0 0)⟩
    else (escaped? c).map fun e => ⟨found, .string (addChar high read e) (.plain none)⟩
  | .code high digits value =>
    (Text.Hex.value? c).map fun d =>
      let value := value * 16 + d
      if digits = 3 then
        let (high, read) := addUnit high read value
        ⟨found, .string read (.plain high)⟩
      else ⟨found, .string read (.code high (digits + 1) value)⟩

/-- Reads one character; `none` when the text is no JSON. -/
def Reader.step (r : Reader) (c : Char) : Option Reader :=
  match r.mode with
  | .between => some (stepBetween r.found c)
  | .word read =>
    if isSpace c || c = '"' || (single? c).isSome then
      r.closeWord.map fun r => stepBetween r.found c
    else some ⟨r.found, .word (c :: read)⟩
  | .string read at_ => stepString r.found read c at_

/-- The tokens that the reader found, when the text may end here. -/
def Reader.finish (r : Reader) : Option (List Token) :=
  match r.mode with
  | .string .. => none
  | _ => r.closeWord.map fun r => r.found.reverse

/-- The tokens of a text. -/
def tokens? (text : List Char) : Option (List Token) :=
  (text.foldlM Reader.step Reader.start).bind Reader.finish

end TestRig.Json
