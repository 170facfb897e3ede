/-
  TestRig.Shell.Tool.Quoted

  Names and values in the complaints of tools.  A name is written so that a shell
  reads it back as one word: bare where that is safe, else between quotes, with
  characters that cannot be printed as escapes.
-/
import TestRig.Shell.State

namespace TestRig.Shell.Tool

/-- What stands behind the backslash for a character that cannot be printed. -/
def escapeOf? (c : Char) : Option Octets :=
  match c.toNat with
  | 7 => some ['a']
  | 8 => some ['b']
  | 9 => some ['t']
  | 10 => some ['n']
  | 11 => some ['v']
  | 12 => some ['f']
  | 13 => some ['r']
  | n =>
    if 32 ≤ n && n < 127 then none
    else some [Nat.digitChar (n / 64), Nat.digitChar (n / 8 % 8), Nat.digitChar (n % 8)]

/-- A value between quotes, with escapes as a programmer writes them. -/
def quote (value : Octets) : Octets :=
  let written := fun c =>
    match escapeOf? c with
    | some escape => '\\' :: escape
    | none => if c = '\'' || c = '\\' then ['\\', c] else [c]
  '\'' :: value.flatMap written ++ ['\'']

/-! ## Names as a shell reads them -/

/-- Does a shell read a name as it stands, wherever it occurs? -/
def isBare (name : Octets) : Bool :=
  let isPlain := fun (c : Char) => c.isAlphanum || "%+,-./@]_\x7b\x7d#~".toList.contains c
  match name with
  | [] => false
  | ['\x7b'] | ['\x7d'] => false
  | c :: _ => c != '#' && c != '~' && name.all isPlain

/-- Is a name with apostrophes safe between double quotes, as it stands? -/
def isDoubleQuotable (name : Octets) : Bool :=
  let isPlain := fun (c : Char) => c.isAlphanum || "%+,-./:@]_ '".toList.contains c
  name.contains '\'' && match name with
    | '#' :: rest | '~' :: rest => rest.all isPlain
    | name => name.all isPlain

/-- The rest of a name between single quotes, and the quote that closes it.  Escapes stand in
quotes of their own, which `inEscapes` says to be open. -/
def quotedRest (inEscapes : Bool) : Octets → Octets
  | [] => ['\'']
  | c :: rest =>
    match escapeOf? c with
    | some escape =>
      (if inEscapes then [] else "'$'".toList) ++ '\\' :: escape ++ quotedRest true rest
    | none =>
      if c = '\'' then "'\\''".toList ++ quotedRest false rest
      else (if inEscapes then "''".toList else []) ++ c :: quotedRest false rest

/-- A name between quotes.  One with an apostrophe is looked through once and written then, and an
escape at its end counts as open when the writing begins. -/
def quotePath (name : Octets) : Octets :=
  let endsEscaped := (name.getLast?.bind escapeOf?).isSome
  if isDoubleQuotable name then '"' :: name ++ ['"']
  else '\'' :: quotedRest (name.contains '\'' && endsEscaped) name

/-- A name, between quotes only where it needs them. -/
def showPath (name : Octets) : Octets := if isBare name then name else quotePath name

example : showPath ['a', 'b'] = ['a', 'b'] := by decide
example : showPath ['a', ' '] = ['\'', 'a', ' ', '\''] := by decide
example : quotePath ['a', '\''] = ['"', 'a', '\'', '"'] := by decide
example : quotePath ['\n'] = ['\'', '\'', '$', '\'', '\\', 'n', '\''] := by decide

end TestRig.Shell.Tool
