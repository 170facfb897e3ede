/-
  TestRig.Shell.Pattern

  Patterns for names and values: `*`, `?` and sets in brackets.  Characters that were
  quoted stand for themselves.
-/
import TestRig.Shell.Script

namespace TestRig.Shell

/-- How a character of an expanded word came about. -/
inductive Mark where
  /-- Quoted: it stands for itself. -/
  | quoted
  /-- Written in the script. -/
  | plain
  /-- Part of a value that was put in without quotes. -/
  | expanded
  deriving DecidableEq

/-- A character of an expanded word. -/
structure Glyph where
  char : Char
  mark : Mark
  deriving DecidableEq

/-- A text with one mark. -/
def Glyph.ofText (mark : Mark) (text : Octets) : List Glyph := text.map (⟨·, mark⟩)

/-- The characters of an expanded word. -/
def Glyph.toText (glyphs : List Glyph) : Octets := glyphs.map (·.char)

/-- A class of characters by its name. -/
def characterClass? : String → Option (Char → Bool)
  | "alpha" => some Char.isAlpha
  | "digit" => some Char.isDigit
  | "alnum" => some Char.isAlphanum
  | "upper" => some Char.isUpper
  | "lower" => some Char.isLower
  | "space" => some fun c => c = ' ' || (9 ≤ c.toNat && c.toNat ≤ 13)
  | "blank" => some fun c => c = ' ' || c = '\t'
  | "punct" => some fun c => 33 ≤ c.toNat && c.toNat ≤ 126 && !c.isAlphanum
  | "print" => some fun c => 32 ≤ c.toNat && c.toNat ≤ 126
  | "graph" => some fun c => 33 ≤ c.toNat && c.toNat ≤ 126
  | "cntrl" => some fun c => c.toNat < 32 || c.toNat = 127
  | "xdigit" => some fun c =>
    c.isDigit || ('a' ≤ c && c ≤ 'f') || ('A' ≤ c && c ≤ 'F')
  | _ => none

/-- A set of characters: single ones and ranges of them, and classes. -/
structure CharSet where
  negated : Bool
  ranges : List (Char × Char)
  classes : List String

/-- Is the character in the set? -/
def CharSet.contains (s : CharSet) (c : Char) : Bool :=
  (s.ranges.any (fun (low, high) => low ≤ c && c ≤ high) ||
    s.classes.any fun name => ((characterClass? name).map (· c)).getD false) != s.negated

/-- The text up to `:]`, and what follows that. -/
def className? : Octets → Option (Octets × Octets)
  | ':' :: ']' :: rest => some ([], rest)
  | c :: rest => (className? rest).map fun (name, rest) => (c :: name, rest)
  | [] => none

/-- The members of a set in brackets up to its end, and what follows; `isFirst` says that a bracket
would be a member.  Quoted characters have been given the mark `true`. -/
def setMembers? (isFirst : Bool) (found : CharSet) :
    Nat → List (Char × Bool) → Option (CharSet × List (Char × Bool))
  | 0, _ => none
  | bound + 1, glyphs =>
    match glyphs with
    | [] => none
    | (']', false) :: rest =>
      if isFirst then
        setMembers? false { found with ranges := (']', ']') :: found.ranges } bound rest
      else some (found, rest)
    | ('[', false) :: (':', false) :: rest =>
      match className? (rest.map (·.1)) with
      | some (name, _) =>
        setMembers? false { found with classes := String.ofList name :: found.classes } bound
          (rest.drop (name.length + 2))
      | none => setMembers? false { found with ranges := ('[', '[') :: found.ranges } bound
          ((':', false) :: rest)
    | (low, _) :: ('-', false) :: (high, q) :: rest =>
      if high = ']' && !q then
        setMembers? false { found with ranges := (low, low) :: found.ranges } bound
          (('-', true) :: (high, q) :: rest)
      else setMembers? false { found with ranges := (low, high) :: found.ranges } bound rest
    | (c, _) :: rest =>
      setMembers? false { found with ranges := (c, c) :: found.ranges } bound rest

/-- The set that begins behind an opening bracket, and what follows it. -/
def charSet? (glyphs : List (Char × Bool)) : Option (CharSet × List (Char × Bool)) :=
  match glyphs with
  | ('!', false) :: rest | ('^', false) :: rest =>
    setMembers? true ⟨true, [], []⟩ (rest.length + 1) rest
  | glyphs => setMembers? true ⟨false, [], []⟩ (glyphs.length + 1) glyphs

/-- An item of a pattern. -/
inductive PatternItem where
  | char (c : Char)
  /-- Any one character. -/
  | any
  /-- Any text. -/
  | star
  | set (s : CharSet)

/-- A pattern for texts. -/
abbrev Pattern := List PatternItem

namespace Pattern

/-- Reads a pattern; the bound is the number of characters. -/
def read : Nat → List (Char × Bool) → Pattern
  | 0, _ => []
  | _ + 1, [] => []
  | bound + 1, (c, quoted) :: rest =>
    if quoted then .char c :: read bound rest
    else if c = '*' then .star :: read bound rest
    else if c = '?' then .any :: read bound rest
    else if c = '\\' then
      match rest with
      | (c, _) :: rest => .char c :: read bound rest
      | [] => [.char '\\']
    else if c = '[' then
      match charSet? rest with
      | some (s, rest) => .set s :: read bound rest
      | none => .char '[' :: read bound rest
    else .char c :: read bound rest

/-- The pattern of an expanded word. -/
def ofGlyphs (glyphs : List Glyph) : Pattern :=
  read glyphs.length (glyphs.map fun g => (g.char, g.mark = .quoted))

/-- Does the pattern stand for texts other than itself? -/
def isActive (p : Pattern) : Bool := p.any fun
  | .char _ => false
  | _ => true

/-- The ends of a text, the whole text first. -/
def ends : Octets → List Octets
  | [] => [[]]
  | c :: rest => (c :: rest) :: ends rest

/-- Does the whole text fit the pattern? -/
def fits : Pattern → Octets → Bool
  | [], text => text.isEmpty
  | .star :: rest, text => (ends text).any (fits rest)
  | _ :: _, [] => false
  | .char a :: rest, c :: text => a = c && fits rest text
  | .any :: rest, _ :: text => fits rest text
  | .set s :: rest, c :: text => s.contains c && fits rest text

/-- The value without an end that fits the pattern. -/
def cut (p : Pattern) (end_ : CutEnd) (longest : Bool) (text : Octets) : Octets :=
  let lengths := List.range (text.length + 1)
  let lengths := if longest then lengths.reverse else lengths
  match end_ with
  | .front =>
    match lengths.find? fun n => fits p (text.take n) with
    | some n => text.drop n
    | none => text
  | .back =>
    match lengths.find? fun n => fits p (text.drop (text.length - n)) with
    | some n => text.take (text.length - n)
    | none => text

end Pattern

end TestRig.Shell
