/-
  TestRig.Toml.Scalar

  The values of TOML that are written as a bare word: booleans, integers, floats,
  dates and times.
-/
import TestRig.Text.Hex
import TestRig.Text.Lines
import TestRig.Toml.Basic

namespace TestRig.Toml

/-! ## Numbers -/

/-- The digits without the underscores between them: each underscore must stand between digits. -/
def digitsOf? (isDigit : Char → Bool) (text : List Char) : Option (List Char) :=
  let groups := Text.splitAt '_' text
  if groups.all fun g => !g.isEmpty && g.all isDigit then some groups.flatten else none

/-- The number of digits in a base. -/
def naturalOf (base : Nat) (digits : List Char) : Nat :=
  digits.foldl (fun n c => n * base + (Text.Hex.value? c).getD 0) 0

/-- Decimal digits without a superfluous zero in front. -/
def decimal? (text : List Char) : Option (List Char) :=
  match digitsOf? Char.isDigit text with
  | some ('0' :: _ :: _) => none
  | other => other

/-- A number without its sign. -/
def unsigned? (text : List Char) : Option Nat :=
  match text with
  | '0' :: 'x' :: digits => (digitsOf? Text.Hex.isDigit digits).map (naturalOf 16)
  | '0' :: 'o' :: digits =>
    (digitsOf? (fun c => '0' ≤ c && c ≤ '7') digits).map (naturalOf 8)
  | '0' :: 'b' :: digits => (digitsOf? (fun c => c = '0' || c = '1') digits).map (naturalOf 2)
  | digits => (decimal? digits).map (naturalOf 10)

/-- The sign in front of a word, and the rest of it. -/
def splitSign : List Char → Option Bool × List Char
  | '+' :: rest => (some false, rest)
  | '-' :: rest => (some true, rest)
  | word => (none, word)

/-- The integer that a word is.  A sign goes with decimal digits alone, and the value fits into 128
bits. -/
def integer? (word : List Char) : Option Int :=
  let value? : Option Int := match splitSign word with
    | (none, digits) => (unsigned? digits).map fun n => n
    | (some negative, digits) =>
      (decimal? digits).map fun ds =>
        let n : Int := naturalOf 10 ds
        if negative then -n else n
  value?.bind fun n => if -0x80000000000000000000000000000000 ≤ n ∧
    n < 0x100000000000000000000000000000000 then some n else none

/-- Does a decimal number of given digits, with the point in front of the last `places` of them and
a power of ten, exceed the range of doubles? -/
def overflows (digits : List Char) (places : Nat) (exponent : Int) : Bool :=
  let significant := digits.dropWhile (· = '0')
  if significant.isEmpty then false
  else
    let magnitude : Int := (significant.length : Int) - places + exponent
    if magnitude > 310 then true
    else if magnitude < 300 then false
    else
      let limit := Nat.pow 2 1024 - Nat.pow 2 970
      let n := naturalOf 10 significant
      let shift := exponent - places
      if 0 ≤ shift then limit ≤ n * Nat.pow 10 shift.toNat
        else limit * Nat.pow 10 (-shift).toNat ≤ n

/-- Is the word a float: digits with a fraction, an exponent or both, or one of the special
values? -/
def isFloat (word : List Char) : Bool :=
  let text := (splitSign word).2
  if text = ['i', 'n', 'f'] || text = ['n', 'a', 'n'] then true
  else
    let mantissa := text.takeWhile fun c => c ≠ 'e' && c ≠ 'E'
    let exponentPart := text.dropWhile fun c => c ≠ 'e' && c ≠ 'E'
    let whole := mantissa.takeWhile (· ≠ '.')
    let fractionPart := mantissa.dropWhile (· ≠ '.')
    let fraction? := match fractionPart with
      | [] => some []
      | _ :: digits => digitsOf? Char.isDigit digits
    let exponent? : Option Int := match exponentPart with
      | [] => some 0
      | _ :: rest =>
        let (sign, digits) := splitSign rest
        (digitsOf? Char.isDigit digits).map fun ds =>
          let n : Int := naturalOf 10 ds
          if sign = some true then -n else n
    match decimal? whole, fraction?, exponent? with
    | some w, some f, some e =>
      !(fractionPart.isEmpty && exponentPart.isEmpty) && !overflows (w ++ f) f.length e
    | _, _, _ => false

/-! ## Dates and times -/

/-- A number of exactly two digits between bounds, and what follows it. -/
def twoDigits? (low high : Nat) : List Char → Option (Nat × List Char)
  | a :: b :: rest =>
    if a.isDigit && b.isDigit then
      let n := naturalOf 10 [a, b]
      if low ≤ n ∧ n ≤ high then some (n, rest) else none
    else none
  | _ => none

/-- The number of days of a month. -/
def daysOf (year month : Nat) : Nat :=
  let isLeap := year % 4 = 0 ∧ (year % 100 ≠ 0 ∨ year % 400 = 0)
  if month = 2 then (if isLeap then 29 else 28)
  else if month = 4 ∨ month = 6 ∨ month = 9 ∨ month = 11 then 30 else 31

/-- What follows the date at the front of a word. -/
def afterDate? (word : List Char) : Option (List Char) :=
  match word with
  | a :: b :: c :: d :: '-' :: rest =>
    if [a, b, c, d].all Char.isDigit then do
      let (month, rest) ← twoDigits? 1 12 rest
      match rest with
      | '-' :: rest => do
        let (_, rest) ← twoDigits? 1 (daysOf (naturalOf 10 [a, b, c, d]) month) rest
        some rest
      | _ => none
    else none
  | _ => none

/-- What follows the time at the front of a word. -/
def afterTime? (word : List Char) : Option (List Char) := do
  let (_, rest) ← twoDigits? 0 23 word
  match rest with
  | ':' :: rest => do
    let (_, rest) ← twoDigits? 0 59 rest
    match rest with
    | ':' :: rest => do
      let (_, rest) ← twoDigits? 0 60 rest
      match rest with
      | '.' :: rest =>
        if (rest.takeWhile Char.isDigit).isEmpty then none
        else some (rest.dropWhile Char.isDigit)
      | _ => some rest
    | _ => some rest
  | _ => none

/-- Is the text a distance from universal time? -/
def isOffset (text : List Char) : Bool :=
  match text with
  | ['Z'] | ['z'] => true
  | sign :: rest =>
    (sign = '+' || sign = '-') &&
      match twoDigits? 0 23 rest with
      | some (_, ':' :: rest) => (twoDigits? 0 59 rest).any (·.2.isEmpty)
      | _ => false
  | [] => false

/-- Is the word a date, a time, or a date and a time with or without a distance? -/
def isDatetime (word : List Char) : Bool :=
  match afterDate? word with
  | some [] => true
  | some (mark :: rest) =>
    (mark = 'T' || mark = 't' || mark = ' ') &&
      match afterTime? rest with
      | some offset => offset.isEmpty || isOffset offset
      | none => false
  | none => afterTime? word = some []

/-- The value that a bare word is. -/
def scalar? (word : List Char) : Option Value :=
  if word = ['t', 'r', 'u', 'e'] then some (.boolean true)
  else if word = ['f', 'a', 'l', 's', 'e'] then some (.boolean false)
  else if isDatetime word then some (.datetime (String.ofList word))
  else match integer? word with
    | some n => some (.integer n)
    | none => if isFloat word then some (.float (String.ofList word)) else none

end TestRig.Toml
