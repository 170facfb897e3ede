/-
  TestRig.Shell.Format

  The texts that `echo` and `printf` write: escapes behind backslashes, and the
  conversions of a format.
-/
import TestRig.Decimal.Rounded
import TestRig.Shell.Arithmetic

namespace TestRig.Shell.Format

/-! ## Escapes -/

def isOctal (c : Char) : Bool := '0' ≤ c && c ≤ '7'

/-- The character of a code, in eight bits. -/
def octet (n : Nat) : Char := Char.ofNat (n % 256)

/-- The character that an escape stands for, and what follows it.  A backslash in front of anything
else stands for itself. -/
def escape (behind : Octets) : Char × Octets :=
  match behind with
  | 'a' :: rest => (octet 7, rest)
  | 'b' :: rest => (octet 8, rest)
  | 'f' :: rest => (octet 12, rest)
  | 'n' :: rest => ('\n', rest)
  | 'r' :: rest => ('\r', rest)
  | 't' :: rest => ('\t', rest)
  | 'v' :: rest => (octet 11, rest)
  | '\\' :: rest => ('\\', rest)
  | rest =>
    let digits := (rest.take 3).takeWhile isOctal
    if digits.isEmpty then ('\\', rest)
    else (octet (Nat.ofDigitChars 8 digits 0), rest.drop digits.length)

/-- A text with its escapes replaced, and whether `\c` ended it; the bound is its length.  Octal
codes may have a further zero in front. -/
def unescape : Nat → Octets → Octets × Bool
  | 0, _ => ([], false)
  | _ + 1, [] => ([], false)
  | bound + 1, '\\' :: behind =>
    match behind with
    | 'c' :: _ => ([], true)
    | behind =>
      let behind := match behind with
        | '0' :: d :: rest => if isOctal d then d :: rest else behind
        | _ => behind
      let (c, rest) := escape behind
      let (text, ended) := unescape bound rest
      (c :: text, ended)
  | bound + 1, c :: rest =>
    let (text, ended) := unescape bound rest
    (c :: text, ended)

/-- What `echo` writes for its arguments. -/
def echo (arguments : List Octets) : Octets :=
  let (arguments, newline) := match arguments with
    | ['-', 'n'] :: rest => (rest, false)
    | arguments => (arguments, true)
  let joined := [' '].intercalate arguments
  let (text, ended) := unescape joined.length joined
  if newline && !ended then text ++ ['\n'] else text

/-! ## Conversions -/

/-- How a conversion is laid out. -/
structure Layout where
  left : Bool := false
  plus : Bool := false
  space : Bool := false
  zero : Bool := false
  alternate : Bool := false
  width : Nat := 0
  precision : Option Nat := none

/-- Fills a text up to the width of a layout. -/
def Layout.pad (l : Layout) (text : Octets) : Octets :=
  let fill := List.replicate (l.width - text.length) ' '
  if l.left then text ++ fill else fill ++ text

/-- A number: a sign, what marks its base, and its digits. -/
def Layout.number (l : Layout) (sign mark digits : Octets) : Octets :=
  let digits := match l.precision with
    | some p =>
      if p = 0 && digits = ['0'] then [] else List.replicate (p - digits.length) '0' ++ digits
    | none =>
      if l.zero && !l.left then
        List.replicate (l.width - sign.length - mark.length - digits.length) '0' ++ digits
      else digits
  l.pad (sign ++ mark ++ digits)

/-- The sign of a number that is not negative. -/
def Layout.sign (l : Layout) : Octets :=
  if l.plus then ['+'] else if l.space then [' '] else []

/-- The digits of a number to a base. -/
def digits (base n : Nat) (upper : Bool) : Octets :=
  let ds := Nat.toDigits base n
  if upper then ds.map Char.toUpper else ds

/-- What is known of a text that was written so far: the text itself, the last piece first, the
arguments that are left, what is wrong with arguments, and whether the writing goes on. -/
structure Progress where
  pieces : List Octets := []
  arguments : List Octets
  warnings : List Octets := []
  /-- Why the writing cannot go on. -/
  error : Option Octets := none
  /-- Was the end asked for? -/
  ended : Bool := false

namespace Progress

def put (p : Progress) (text : Octets) : Progress := { p with pieces := text :: p.pieces }

/-- The next argument; when they have run out, there is none. -/
def next (p : Progress) : Option Octets × Progress :=
  match p.arguments with
  | a :: rest => (some a, { p with arguments := rest })
  | [] => (none, p)

/-- The number in front of a text, and what follows it. -/
def leadingNumber (text : Octets) : Option (Int × Octets) :=
  let body := text.dropWhile fun c => c = ' ' || c = '\t' || c = '\n'
  let (negative, body) := match body with
    | '-' :: rest => (true, rest)
    | '+' :: rest => (false, rest)
    | rest => (false, rest)
  let read (base : Nat) (digits : Octets) : Option (Int × Octets) :=
    let good := digits.takeWhile fun c => (Arithmetic.digit? c).any (· < base)
    if good.isEmpty then none
    else
      let n : Int := (Arithmetic.ofDigits? base good).getD 0
      some (if negative then -n else n, digits.drop good.length)
  match body with
  | '0' :: 'x' :: digits | '0' :: 'X' :: digits =>
    match read 16 digits with
    | some found => some found
    | none => read 8 body
  | '0' :: _ => read 8 body
  | _ => read 10 body

/-- The next argument as a number. -/
def nextNumber (p : Progress) : Int × Progress :=
  match p.next with
  | (none, p) => (0, p)
  | (some (q :: rest), p) =>
    if q = '"' || q = '\'' then (((rest.head?.map Char.toNat).getD 0 : Nat), p)
    else
      let text := q :: rest
      let warn := fun (what : String) => { p with warnings := p.warnings ++ [text ++ what.toList] }
      match leadingNumber text with
      | none => (0, warn ": expected numeric value")
      | some (n, []) =>
        if -0x8000000000000000 ≤ n ∧ n < 0x10000000000000000 then (n, p)
        else (n, warn ": Numerical result out of range")
      | some (n, _) => (n, warn ": not completely converted")
  | (some [], p) => (0, p)

/-- Writes a whole number by a conversion. -/
def integer (p : Progress) (l : Layout) (conversion : Char) : Progress :=
  let (n, p) := p.nextNumber
  match conversion with
  | 'd' | 'i' =>
    let n := max (-0x8000000000000000) (min n 0x7FFFFFFFFFFFFFFF)
    let sign := if n < 0 then ['-'] else l.sign
    p.put (l.number sign [] (digits 10 n.natAbs false))
  | _ =>
    let n := if n < 0 then (n % 0x10000000000000000).toNat else min n.toNat 0xFFFFFFFFFFFFFFFF
    match conversion with
    | 'o' => p.put (l.number [] (if l.alternate && n ≠ 0 then ['0'] else []) (digits 8 n false))
    | 'u' => p.put (l.number [] [] (digits 10 n false))
    | 'x' =>
      p.put (l.number [] (if l.alternate && n ≠ 0 then "0x".toList else []) (digits 16 n false))
    | _ => p.put (l.number [] (if l.alternate && n ≠ 0 then "0X".toList else []) (digits 16 n true))

/-- The decimal fraction in front of a text: its digits, and how many of them stand behind the
point. -/
def leadingDecimal (text : Octets) : Option (Bool × Nat × Nat × Octets) :=
  let (negative, body) := match text with
    | '-' :: rest => (true, rest)
    | '+' :: rest => (false, rest)
    | rest => (false, rest)
  let whole := body.takeWhile Char.isDigit
  let rest := body.drop whole.length
  let (part, rest) := match rest with
    | '.' :: more => (more.takeWhile Char.isDigit, more.dropWhile Char.isDigit)
    | rest => ([], rest)
  if whole.isEmpty && part.isEmpty then none
  else some (negative, Nat.ofDigitChars 10 (whole ++ part) 0, part.length, rest)

/-- Writes a number with a fixed number of decimals. -/
def fixedPoint (p : Progress) (l : Layout) : Progress :=
  let (argument, p) := p.next
  let text := argument.getD ['0']
  let warn := fun (p : Progress) (what : String) =>
    { p with warnings := p.warnings ++ [text ++ what.toList] }
  let (negative, mantissa, places, p) := match leadingDecimal text with
    | none => (false, 0, 0, warn p ": expected numeric value")
    | some (negative, mantissa, places, rest) =>
      (negative, mantissa, places,
        if rest.isEmpty then p else warn p ": not completely converted")
  let x := Float.ofScientific mantissa true places
  let shown := (Decimal.fixed (l.precision.getD 6) x).toList
  let sign := if negative then ['-'] else l.sign
  p.put ({ l with precision := none }.number sign [] shown)

end Progress

/-- Passes over the flags in front of a width. -/
def flags (l : Layout) : Octets → Layout × Octets
  | '-' :: rest => flags { l with left := true } rest
  | '+' :: rest => flags { l with plus := true } rest
  | ' ' :: rest => flags { l with space := true } rest
  | '0' :: rest => flags { l with zero := true } rest
  | '#' :: rest => flags { l with alternate := true } rest
  | rest => (l, rest)

/-- A width or a precision: digits, or `*` for the next argument. -/
def measure (p : Progress) (format : Octets) : Int × Octets × Progress :=
  match format with
  | '*' :: rest =>
    let (n, p) := p.nextNumber
    (n, rest, p)
  | format =>
    let ds := format.takeWhile Char.isDigit
    (Nat.ofDigitChars 10 ds 0, format.drop ds.length, p)

/-- Carries out a conversion, of which `%` has been read. -/
def convert (p : Progress) (format : Octets) : Progress × Octets :=
  let (l, rest) := flags {} format
  let (width, rest, p) := measure p rest
  let l := { l with width := width.natAbs, left := l.left || width < 0 }
  let (l, rest, p) := match rest with
    | '.' :: rest =>
      let (n, rest, p) := measure p rest
      ({ l with precision := if n < 0 then none else some n.toNat }, rest, p)
    | rest => (l, rest, p)
  let cut := fun (text : Octets) => match l.precision with
    | some n => text.take n
    | none => text
  match rest with
  | [] => ({ p with error := some "missing format character".toList }, [])
  | c :: rest =>
    match c with
    | 's' =>
      let (a, p) := p.next
      (p.put (l.pad (cut (a.getD []))), rest)
    | 'b' =>
      let (a, p) := p.next
      let text := a.getD []
      let (text, ended) := unescape text.length text
      ({ p.put (l.pad (cut text)) with ended }, rest)
    | 'c' =>
      let (a, p) := p.next
      let text := a.getD []
      (p.put (l.pad (if text.isEmpty then [octet 0] else text.take 1)), rest)
    | 'f' | 'F' => (p.fixedPoint l, rest)
    | c =>
      if c ∈ ['d', 'i', 'o', 'u', 'x', 'X'] then (p.integer l c, rest)
      else
        let spec := '%' :: format.take (format.length - rest.length)
        ({ p with error := some (spec ++ ": invalid directive".toList) }, rest)

/-- Goes through a format once; the bound is its length. -/
def once : Nat → Octets → Progress → Progress
  | 0, _, p => p
  | _ + 1, [], p => p
  | bound + 1, c :: rest, p =>
    if p.ended || p.error.isSome then p
    else match c, rest with
      | '\\', rest =>
        let (c, rest) := escape rest
        once bound rest (p.put [c])
      | '%', '%' :: rest => once bound rest (p.put ['%'])
      | '%', rest =>
        let (p, rest) := convert p rest
        once bound rest p
      | c, rest => once bound rest (p.put [c])

/-- Goes through a format until the arguments are used up; the bound is their number. -/
def again (format : Octets) : Nat → Progress → Progress
  | 0, p => p
  | bound + 1, p =>
    let before := p.arguments.length
    let p := once format.length format p
    if p.arguments.isEmpty || p.arguments.length = before || p.ended || p.error.isSome then p
    else again format bound p

/-- What `printf` writes for a format and arguments. -/
def printf (format : Octets) (arguments : List Octets) : Progress :=
  again format (arguments.length + 1) { arguments }

/-- The text that was written. -/
def Progress.text (p : Progress) : Octets := p.pieces.reverse.flatten

end TestRig.Shell.Format
