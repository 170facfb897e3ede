/-
  TestRig.Shell.Regex

  Regular expressions in their basic and their extended spelling, and searching for
  the leftmost longest match.
-/
import TestRig.Shell.Pattern

namespace TestRig.Shell

/-- A regular expression. -/
inductive Regex where
  | empty
  | char (c : Char)
  | any
  | set (s : CharSet)
  | lineStart
  | lineEnd
  | seq (a b : Regex)
  | alt (a b : Regex)
  | times (a : Regex) (low : Nat) (high : Option Nat)
  | group (n : Nat) (a : Regex)
  deriving Inhabited

namespace Regex

/-! ## Matching -/

/-- A place in a line, and what the groups have matched. -/
structure Place where
  before : Octets
  rest : Octets
  groups : List (Nat × Octets) := []

/-- Passes over the next character if it is in a class. -/
def Place.pass (p : Place) (test : Char → Bool) : List Place :=
  match p.rest with
  | c :: rest => if test c then [{ p with before := c :: p.before, rest }] else []
  | [] => []

/-- The places that repeated steps lead to, longer ones first; steps that lead nowhere do not
count.  The bound is the length of the text. -/
def repeated (step : Place → List Place) : Nat → Nat → Option Nat → Place → List Place
  | 0, low, _, p => if low = 0 then [p] else []
  | bound + 1, low, high, p =>
    let further :=
      if high = some 0 then []
      else (step p).flatMap fun q =>
        if q.rest.length < p.rest.length then
          repeated step bound (low - 1) (high.map (· - 1)) q
        else if low ≤ 1 then [q] else repeated step bound (low - 1) (high.map (· - 1)) q
    if low = 0 then further ++ [p] else further

/-- The places behind a match that begins at a place. -/
def run : Regex → Place → List Place
  | empty, p => [p]
  | char a, p => p.pass (· = a)
  | any, p => p.pass fun _ => true
  | set s, p => p.pass s.contains
  | lineStart, p => if p.before.isEmpty then [p] else []
  | lineEnd, p => if p.rest.isEmpty then [p] else []
  | seq a b, p => (run a p).flatMap (run b)
  | alt a b, p => run a p ++ run b p
  | times a low high, p => repeated (run a) (p.rest.length + low + 1) low high p
  | group n a, p => (run a p).map fun q =>
    { q with groups := (n, p.rest.take (p.rest.length - q.rest.length)) :: q.groups }

/-- A match: the text in front of it, the text that matches, what follows, and the groups. -/
structure Match where
  front : Octets
  text : Octets
  rest : Octets
  groups : List (Nat × Octets)

/-- The longest match that begins at a place. -/
def matchAt? (r : Regex) (p : Place) : Option Match :=
  let longest := (run r p).foldl (fun (best : Option Place) q =>
    match best with
    | some b => if q.rest.length < b.rest.length then some q else best
    | none => some q) none
  longest.map fun q =>
    ⟨p.before.reverse, p.rest.take (p.rest.length - q.rest.length), q.rest, q.groups⟩

/-- The leftmost match from a place on. -/
def searchFrom (r : Regex) (before : Octets) : Octets → Option Match
  | [] => matchAt? r ⟨before, [], []⟩
  | c :: rest =>
    match matchAt? r ⟨before, c :: rest, []⟩ with
    | some m => some m
    | none => searchFrom r (c :: before) rest

/-- The leftmost longest match in a line. -/
def search? (r : Regex) (line : Octets) : Option Match := searchFrom r [] line

/-! ## Reading -/

/-- The signs of an expression. -/
inductive Sign where
  | item (r : Regex)
  | times (low : Nat) (high : Option Nat)
  | open_
  | close
  | bar

/-- Bounds such as `2`, `2,` and `2,3`. -/
def bounds? (text : Octets) : Option (Nat × Option Nat) :=
  let low := text.takeWhile Char.isDigit
  match text.drop low.length with
  | [] =>
    if low.isEmpty then none
    else some (Nat.ofDigitChars 10 low 0, some (Nat.ofDigitChars 10 low 0))
  | ',' :: high =>
    if high.isEmpty then some (Nat.ofDigitChars 10 low 0, none)
    else if high.all Char.isDigit then
      some (Nat.ofDigitChars 10 low 0, some (Nat.ofDigitChars 10 high 0))
    else none
  | _ => none

/-- A set for a letter behind a backslash. -/
def escapedSet? : Char → Option CharSet
  | 'w' => some ⟨false, [('_', '_')], ["alnum"]⟩
  | 'W' => some ⟨true, [('_', '_')], ["alnum"]⟩
  | 's' => some ⟨false, [], ["space"]⟩
  | 'S' => some ⟨true, [], ["space"]⟩
  | _ => none

/-- Cuts an expression into signs; `none` when a bracket is not closed.  `isFirst` says that a
branch begins here. -/
def signs? (extended : Bool) : Nat → Bool → Octets → Option (List Sign)
  | 0, _, _ => some []
  | _ + 1, _, [] => some []
  | bound + 1, isFirst, c :: rest =>
    let item := fun (r : Regex) (rest : Octets) =>
      (signs? extended bound false rest).map (.item r :: ·)
    let special := fun (s : Sign) (starts : Bool) (rest : Octets) =>
      (signs? extended bound starts rest).map (s :: ·)
    let operator := fun (c : Char) (rest : Octets) => match c with
      | '(' => special .open_ true rest
      | ')' => special .close false rest
      | '|' => special .bar true rest
      | '+' => special (.times 1 none) false rest
      | '?' => special (.times 0 (some 1)) false rest
      | _ =>
        let text := rest.takeWhile (· ≠ '\x7d')
        let text := if extended then text else text.filter (· ≠ '\\')
        match bounds? text with
        | some (low, high) =>
          special (.times low high) false ((rest.dropWhile (· ≠ '\x7d')).drop 1)
        | none => item (.char c) rest
    let isOperator := fun (c : Char) => c ∈ ['(', ')', '|', '+', '?', '\x7b']
    match c with
    | '\\' =>
      match rest with
      | [] => item (.char '\\') []
      | d :: more =>
        if !extended && isOperator d then operator d more
        else match escapedSet? d with
          | some s => item (.set s) more
          | none => item (.char d) more
    | '.' => item .any rest
    | '[' =>
      match charSet? (rest.map (·, false)) with
      | some (s, more) => item (.set s) (more.map (·.1))
      | none => none
    | '*' => if isFirst then item (.char '*') rest else special (.times 0 none) false rest
    | '^' =>
      if extended || isFirst then (signs? extended bound true rest).map (.item .lineStart :: ·)
      else item (.char '^') rest
    | '$' =>
      let ends := rest.isEmpty || "\\)".toList.isPrefixOf rest || "\\|".toList.isPrefixOf rest
      if extended || ends then item .lineEnd rest else item (.char '$') rest
    | c => if extended && isOperator c && !(isFirst && c ∈ ['+', '?', '\x7b']) then operator c rest
      else item (.char c) rest

/-- An expression that is being read: the branches and groups that are still open. -/
structure Reading where
  /-- The branches in front of the current one, and the current one with its last item first. -/
  branches : List Regex := []
  items : List Regex := []
  /-- The same for the groups around, with their numbers. -/
  around : List (Nat × List Regex × List Regex) := []
  groups : Nat := 0

/-- The expression of items, the last one first. -/
def ofItems (items : List Regex) : Regex :=
  items.foldl (fun r item => match r with
    | .empty => item
    | r => .seq item r) .empty

/-- The expression of the branches and the items behind them. -/
def Reading.whole (s : Reading) : Regex :=
  (s.branches.foldl (fun r branch => .alt branch r) (ofItems s.items))

/-- Takes a sign. -/
def Reading.take (s : Reading) : Sign → Option Reading
  | .item r => some { s with items := r :: s.items }
  | .times low high =>
    match s.items with
    | r :: items => some { s with items := .times r low high :: items }
    | [] => some s
  | .bar => some { s with branches := ofItems s.items :: s.branches, items := [] }
  | .open_ => some ⟨[], [], (s.groups + 1, s.branches, s.items) :: s.around, s.groups + 1⟩
  | .close =>
    match s.around with
    | (n, branches, items) :: around =>
      some ⟨branches, .group n s.whole :: items, around, s.groups⟩
    | [] => none

/-- Reads an expression. -/
def ofText? (extended : Bool) (text : Octets) : Option Regex := do
  let found ← signs? extended (text.length + 1) true text
  let s ← found.foldlM Reading.take {}
  if s.around.isEmpty then some s.whole else none

/-- The expression that matches a text itself. -/
def literal (text : Octets) : Regex := ofItems (text.reverse.map .char)

/-- The expression without regard to case. -/
def foldCase : Regex → Regex
  | char c => char c.toLower
  | set s => set { s with
      ranges := s.ranges.map fun (low, high) =>
        if low.isUpper && high.isUpper then (low.toLower, high.toLower) else (low, high)
      classes := s.classes.map fun name => if name = "upper" then "lower" else name }
  | seq a b => seq (foldCase a) (foldCase b)
  | alt a b => alt (foldCase a) (foldCase b)
  | times a low high => times (foldCase a) low high
  | group n a => group n (foldCase a)
  | r => r

end Regex

end TestRig.Shell
