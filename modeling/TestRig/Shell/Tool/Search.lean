/-
  TestRig.Shell.Tool.Search

  Tools that look for regular expressions in lines: `grep`, which picks lines, and
  `sed`, which edits them.
-/
import TestRig.Shell.Regex
import TestRig.Shell.Tool.Basic

namespace TestRig.Shell.Tool

open Run

/-! ## Picking lines -/

/-- Is the match a word of its own? -/
def isWord (m : Regex.Match) : Bool :=
  let inWord := fun (c : Char) => c.isAlphanum || c = '_'
  !(m.front.getLast?.map inWord).getD false && !(m.rest.head?.map inWord).getD false

/-- The test of a line that the arguments of `grep` describe: the match, if it is one. -/
def matcher (a : Arguments) (expressions : List Regex) (line : Octets) : Option Regex.Match :=
  let line' := if a.has 'i' then line.map Char.toLower else line
  expressions.findSome? fun r =>
    let r := if a.has 'x' then .seq .lineStart (.seq (.group 0 r) .lineEnd) else r
    match (if a.has 'i' then r.foldCase else r).search? line' with
    | some m => if a.has 'w' && !isWord m then none else some m
    | none => none

/-- The parts of a line that match, one behind the other; the bound is the length of the line. -/
def matches_ (find : Octets → Option Regex.Match) : Nat → Octets → List Octets
  | 0, _ => []
  | bound + 1, line =>
    match find line with
    | none => []
    | some m =>
      let text := (line.drop m.front.length).take m.text.length
      if m.text.isEmpty then (if m.rest.isEmpty then [] else matches_ find bound (m.rest.drop 1))
      else text :: matches_ find bound (line.drop (m.front.length + m.text.length))

/-- What `grep` writes for one input, and whether a line was picked. -/
def grepText (a : Arguments) (find : Octets → Option Regex.Match) (label : Octets)
    (text : Octets) : Octets × Bool :=
  let picked := (text.lines.zipIdx 1).filter fun (line, _) => (find line).isSome != a.has 'v'
  let picked := match (a.value? 'm').bind number? with
    | some n => picked.take n
    | none => picked
  let any := !picked.isEmpty
  let shown :=
    if a.has 'q' then []
    else if a.has 'l' then (if any then label.dropLast ++ ['\n'] else [])
    else if a.has 'c' then label ++ (toString picked.length).toList ++ ['\n']
    else picked.flatMap fun (line, i) =>
      let start := label ++ (if a.has 'n' then (toString i).toList ++ [':'] else [])
      if a.has 'o' && !a.has 'v' then
        (matches_ find (line.length + 1) line).flatMap fun part => start ++ part ++ ['\n']
      else start ++ line ++ ['\n']
  (shown, any)

/-- `grep`: the lines that match one of the expressions. -/
def grep (kind : Option Char) : Tool := withArguments "grep" "EFGivcnqolhHsxwe:m:a"
    [("quiet", 'q'), ("count", 'c'), ("ignore-case", 'i'), ("invert-match", 'v'),
     ("line-number", 'n'), ("only-matching", 'o'), ("fixed-strings", 'F'),
     ("extended-regexp", 'E'), ("word-regexp", 'w'), ("line-regexp", 'x')] 2 fun a => do
  let given := a.switches.filterMap fun (c, v) => if c = 'e' then some v else none
  let (patterns, operands) := if given.isEmpty then (a.operands.take 1, a.operands.drop 1)
    else (given, a.operands)
  if patterns.isEmpty then
    complain "Usage: grep [OPTION]... PATTERNS [FILE]...".toList
    complain "Try 'grep --help' for more information.".toList
    return 2
  let fixed := a.has 'F' || kind = some 'F'
  let extended := a.has 'E' || kind = some 'E'
  let texts := patterns.flatMap fun p => Text.splitAt '\n' p
  let expressions := texts.map fun t =>
    if fixed then some (Regex.literal t) else Regex.ofText? extended t
  if expressions.any Option.isNone then
    complainAs "grep" (if texts.any (·.contains '[') then "Unmatched [, [^, [:, [., or [=".toList
      else "Unmatched ( or \\(".toList)
    return 2
  let find := matcher a (expressions.filterMap id)
  let several := (operands.length > 1 || a.has 'H') && !a.has 'h'
  let operands := if operands.isEmpty then [['-']] else operands
  let mut any := false
  let mut failed := false
  for operand in operands do
    match ← withOperand operand readAll with
    | .ok text =>
      let name := if operand = ['-'] then "(standard input)".toList else operand
      let label := if several || a.has 'l' then name ++ [':'] else []
      let (shown, found) := grepText a find label text
      out shown
      any := any || found
    | .error e =>
      failed := true
      if !a.has 's' then complainAs "grep" (operand ++ ": ".toList ++ reason e)
  return if any && (a.has 'q' || !failed) then 0 else if failed then 2 else 1

/-! ## Editing lines -/

/-- What an address of `sed` picks. -/
inductive Address where
  | line (n : Nat)
  | last
  | fits (r : Regex)

/-- What a command of `sed` does. -/
inductive Edit where
  /-- Puts a text in place of matches: of all of them, or of the one of a number. -/
  | replace (r : Regex) (by_ : Octets) (all : Bool) (nth : Nat) (print : Bool)
  | print
  | delete
  | quit

/-- A command of `sed` and the lines for which it is meant. -/
structure EditCommand where
  first : Option Address
  last : Option Address
  negated : Bool
  edit : Edit

namespace EditCommand

/-- The text up to a delimiter that no backslash protects, and what follows it. -/
def upTo (delimiter : Char) : Octets → Option (Octets × Octets)
  | [] => none
  | '\\' :: c :: rest =>
    (upTo delimiter rest).map fun (text, rest) =>
      (if c = delimiter then c :: text else '\\' :: c :: text, rest)
  | c :: rest =>
    if c = delimiter then some ([], rest)
    else (upTo delimiter rest).map fun (text, rest) => (c :: text, rest)

/-- Reads an address. -/
def address? (extended : Bool) (text : Octets) : Option (Option Address × Octets) :=
  match text with
  | '$' :: rest => some (some .last, rest)
  | '/' :: rest => do
    let (r, rest) ← upTo '/' rest
    some (some (.fits (← Regex.ofText? extended r)), rest)
  | text =>
    let ds := text.takeWhile Char.isDigit
    if ds.isEmpty then some (none, text)
    else some (some (.line (Nat.ofDigitChars 10 ds 0)), text.drop ds.length)

/-- Reads a command and what follows it. -/
def read? (extended : Bool) (text : Octets) : Option (EditCommand × Octets) := do
  let (first, rest) ← address? extended text
  let (last, rest) ← match rest with
    | ',' :: rest => address? extended rest
    | rest => some (none, rest)
  let rest := rest.dropWhile (· = ' ')
  let (negated, rest) := match rest with
    | '!' :: rest => (true, rest.dropWhile (· = ' '))
    | rest => (false, rest)
  let (edit, rest) ← match rest with
    | 's' :: d :: rest => do
      let (r, rest) ← upTo d rest
      let (by_, rest) ← upTo d rest
      let flags := rest.takeWhile fun c => c.isAlphanum
      let r ← Regex.ofText? extended r
      let nth := Nat.ofDigitChars 10 (flags.filter Char.isDigit) 0
      some (Edit.replace r by_ (flags.contains 'g') (max nth 1) (flags.contains 'p'),
        rest.drop flags.length)
    | 'p' :: rest => some (.print, rest)
    | 'd' :: rest => some (.delete, rest)
    | 'q' :: rest => some (.quit, rest)
    | _ => none
  some (⟨first, last, negated, edit⟩, rest.dropWhile (· = ' '))

/-- Reads commands with semicolons or line feeds between them; the bound is the length of the
text. -/
def readAll? (extended : Bool) : Nat → Octets → Option (List EditCommand)
  | 0, _ => some []
  | bound + 1, text =>
    match text.dropWhile fun c => c = ' ' || c = ';' || c = '\n' with
    | [] => some []
    | text => do
      let (command, rest) ← read? extended text
      match rest with
      | [] => some [command]
      | ';' :: rest | '\n' :: rest => (readAll? extended bound rest).map (command :: ·)
      | _ => none

end EditCommand

/-- The text put in place of a match: `&` stands for the match, a digit behind a backslash for a
group. -/
def replacementOf (m : Regex.Match) : Octets → Octets
  | [] => []
  | '\\' :: c :: rest =>
    (if c.isDigit then (m.groups.lookup (c.toNat - 48)).getD []
      else if c = 'n' then ['\n'] else [c]) ++ replacementOf m rest
  | '&' :: rest => m.text ++ replacementOf m rest
  | c :: rest => c :: replacementOf m rest

/-- Replaces matches in a line from match number `i` on; the bound is the length of the text. -/
def replaceFrom (r : Regex) (by_ : Octets) (all : Bool) (nth i : Nat) (before : Octets) :
    Nat → Octets → Octets × Bool
  | 0, text => (text, false)
  | bound + 1, text =>
    match r.searchFrom before text with
    | none => (text, false)
    | some m =>
      let front := m.front.drop before.length
      let counts := i = nth || (all && nth ≤ i)
      let shown := if counts then replacementOf m by_ else m.text
      let (skipped, rest) := if m.text.isEmpty then (m.rest.take 1, m.rest.drop 1) else ([], m.rest)
      if (counts && !all) || (m.text.isEmpty && m.rest.isEmpty) then
        (front ++ shown ++ m.rest, counts)
      else
        let seen := (skipped.reverse ++ m.text.reverse ++ m.front.reverse)
        let (more, changed) := replaceFrom r by_ all nth (i + 1) seen bound rest
        (front ++ shown ++ skipped ++ more, counts || changed)

/-- What became of a line: its text, what was written besides, and whether it goes on. -/
structure Edited where
  line : Octets
  printed : Octets := []
  deleted : Bool := false
  quit : Bool := false

/-- Does a command apply?  The flag of a command with two addresses says that its first one has
been met and its last one has not. -/
def applies (c : EditCommand) (inside : Bool) (number : Nat) (isLast : Bool) (line : Octets) :
    Bool × Bool :=
  let meets := fun (a : Address) => match a with
    | .line n => number == n
    | .last => isLast
    | .fits r => (r.search? line).isSome
  let (hit, inside) := match c.first, c.last with
    | none, _ => (true, false)
    | some a, none => (meets a, false)
    | some a, some b =>
      let ends := match b with
        | .line n => decide (n ≤ number)
        | b => meets b
      if inside then (true, !ends)
      else if meets a then
        (true, match b with
          | .line n => decide (number < n)
          | _ => true)
      else (false, false)
  (hit != c.negated, inside)

/-- Applies a command to a line. -/
def Edited.apply (e : Edited) (c : EditCommand) : Edited :=
  match c.edit with
  | .print => { e with printed := e.printed ++ e.line ++ ['\n'] }
  | .delete => { e with deleted := true }
  | .quit => { e with quit := true }
  | .replace r by_ all nth print =>
    let (line, changed) := replaceFrom r by_ all nth 1 [] (e.line.length + 2) e.line
    { e with line, printed := e.printed ++ (if changed && print then line ++ ['\n'] else []) }

/-- Edits lines in turn; each command has its flag. -/
def editLines (quiet : Bool) (number : Nat) (commands : List (EditCommand × Bool)) :
    List Octets → Octets
  | [] => []
  | line :: rest =>
    let (edited, commands) := commands.foldl (fun (e, done) (c, inside) =>
      if e.deleted || e.quit then (e, done ++ [(c, inside)])
      else
        let (hit, inside) := applies c inside number rest.isEmpty e.line
        (if hit then e.apply c else e, done ++ [(c, inside)])) (({ line } : Edited), [])
    let shown := edited.printed ++
      (if quiet || edited.deleted then [] else edited.line ++ ['\n'])
    if edited.quit then shown else shown ++ editLines quiet (number + 1) commands rest

/-- `sed`: edits the lines of the inputs. -/
def sed : Tool := withArguments "sed" "nEre:s" [("quiet", 'n'), ("expression", 'e'),
    ("regexp-extended", 'E')] 1 fun a => do
  let given := a.switches.filterMap fun (c, v) => if c = 'e' then some v else none
  let (scripts, operands) := if given.isEmpty then (a.operands.take 1, a.operands.drop 1)
    else (given, a.operands)
  let script := ['\n'].intercalate scripts
  match EditCommand.readAll? (a.has 'E' || a.has 'r') (script.length + 1) script with
  | none =>
    complainAs "sed" "-e expression #1, char 1: unknown command".toList
    return 1
  | some commands =>
    let operands := if operands.isEmpty then [['-']] else operands
    let mut text : Octets := []
    let mut status := 0
    for operand in operands do
      match ← withOperand operand readAll with
      | .ok more => text := text ++ more
      | .error e =>
        let what := if e = .isDirectory then "read error on " else "can't read "
        complainAs "sed" (what.toList ++ operand ++ ": ".toList ++ reason e)
        status := if e = .isDirectory then 4 else 2
    let shown := editLines (a.has 'n') 1 (commands.map (·, false)) text.lines
    out (if text.isEmpty || text.getLast? = some '\n' then shown else shown.dropLast)
    return status

end TestRig.Shell.Tool
