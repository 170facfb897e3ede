/-
  TestRig.Shell.Tool.Text

  Tools that read text and write some of it: by lines, by fields and by characters.
-/
import TestRig.Shell.Format
import TestRig.Shell.Pattern
import TestRig.Shell.Tool.Basic

namespace TestRig.Shell.Tool

open Run

/-! ## Whole texts -/

/-- The number of a line, in front of it. -/
def numbered (start : Nat) (lines : List Octets) : List Octets :=
  lines.zipIdx.map fun (line, i) =>
    let shown := (toString (start + i)).toList
    List.replicate (6 - shown.length) ' ' ++ shown ++ '\t' :: line

/-- `cat`: the inputs one after the other, with numbers in front of the lines on demand. -/
def cat : Tool := withArguments "cat" "nAbeEstTuv" [("number", 'n')] 1 fun a => do
  let (text, status) ← input (complainAbout "cat") a.operands
  if a.has 'n' then
    let shown := Octets.ofLines (numbered 1 text.lines)
    out (if text.getLast? = some '\n' then shown else shown.dropLast)
  else out text
  return status

/-- `tac`: the lines in the opposite order. -/
def tac : Tool := withArguments "tac" "" [] 1 fun a => do
  let complaint := fun path e =>
    if e = .isDirectory then
      complainAs "tac" (showPath path ++ ": read error: Invalid argument".toList)
    else complainAs "tac" ("failed to open ".toList ++ quotePath path ++ " for reading: ".toList ++
      reason e)
  let (text, status) ← input complaint a.operands
  let lines := text.lines
  match lines.reverse with
  | last :: front =>
    let lastText := if text.getLast? = some '\n' then last ++ ['\n'] else last
    out (lastText ++ Octets.ofLines front)
  | [] => pure ()
  return status

/-- `rev`: each line backwards. -/
def rev : Tool := withArguments "rev" "" [] 1 fun a => do
  let (text, status) ← input
    (fun path e => complainAs "rev" ("cannot open ".toList ++ path ++ ": ".toList ++ reason e))
    a.operands
  let shown := Octets.ofLines (text.lines.map List.reverse)
  out (if text.getLast? = some '\n' then shown else shown.dropLast)
  return status

/-- `tee`: copies the input to the output and to files. -/
def tee : Tool := withArguments "tee" "ai" [("append", 'a')] 1 fun a => do
  let text ← readAll 0
  out text
  let mut status := 0
  for path in a.operands do
    let result ← change fun fs => do
      let (loc, fs) ← fs.openForWriting (Octets.toBytes path) (!a.has 'a') 0o666
      .ok (fs.setContent loc (fs.contentAt loc ++ text.toBytes))
    match result with
    | .ok () => pure ()
    | .error e =>
      complainAbout "tee" path e
      status := 1
  return status

/-! ## Ends -/

/-- Turns a switch such as `-5` into `-n 5`. -/
def withCount : List Octets → List Octets
  | ('-' :: ds) :: rest =>
    if !ds.isEmpty && ds.all Char.isDigit then ['-', 'n'] :: ds :: rest else ('-' :: ds) :: rest
  | arguments => arguments

/-- The first `n` lines of a text. -/
def firstLines (n : Nat) (text : Octets) : Octets :=
  match n, text with
  | 0, _ | _, [] => []
  | n + 1, c :: rest => c :: firstLines (if c = '\n' then n else n + 1) rest

/-- How many lines a text has; one that is not ended counts. -/
def lineCount (text : Octets) : Nat :=
  text.count '\n' + (if text.isEmpty || text.getLast? = some '\n' then 0 else 1)

/-- The headers that tell several inputs apart. -/
def header (isFirst : Bool) (name : Octets) : Octets :=
  (if isFirst then [] else ['\n']) ++ "==> ".toList ++
    (if name = ['-'] then "standard input".toList else name) ++ " <==\n".toList

/-- Writes a part of each input, with headers when there are several. -/
def partsOf (name : String) (a : Arguments) (part : Nat → Run Octets) : Run Nat := do
  let operands := if a.operands.isEmpty then [['-']] else a.operands
  let mut status := 0
  let mut isFirst := true
  for operand in operands do
    match ← withOperand operand part with
    | .ok text =>
      if (operands.length > 1 || a.has 'v') && !a.has 'q' then out (header isFirst operand)
      out text
      isFirst := false
    | .error e =>
      status := 1
      match e with
      | .system 21 =>
        complainAs name ("error reading ".toList ++ quotePath operand ++ ": ".toList ++ reason e)
      | e =>
        complainAs name
          ("cannot open ".toList ++ quotePath operand ++ " for reading: ".toList ++ reason e)
  return status

/-- `head`: the beginning of each input, or all but its end. -/
def head : Tool := fun arguments =>
  withArguments "head" "n:c:qv" [("lines", 'n'), ("bytes", 'c'), ("quiet", 'q')] 1 (fun a => do
    let (value, bytes) := match a.value? 'c', a.value? 'n' with
      | some v, _ => (v, true)
      | none, v => (v.getD ['1', '0'], false)
    let (allBut, digits) := match value with
      | '-' :: ds => (true, ds)
      | ds => (false, ds)
    match size? digits with
    | none =>
      complainAs "head" ("invalid number of ".toList ++
        (if bytes then "bytes: " else "lines: ").toList ++ quote digits)
      return 1
    | some n =>
      partsOf "head" a fun stream => do
        if bytes && !allBut then readUpTo stream (some n)
        else
          let text ← readAll stream
          if bytes then return text.take (text.length - n)
          else return firstLines (if allBut then lineCount text - n else n) text)
  (withCount arguments)

/-- `tail`: the end of each input, or all from a place on. -/
def tail : Tool := fun arguments =>
  withArguments "tail" "n:c:qv" [("lines", 'n'), ("bytes", 'c'), ("quiet", 'q')] 1 (fun a => do
    let (value, bytes) := match a.value? 'c', a.value? 'n' with
      | some v, _ => (v, true)
      | none, v => (v.getD ['1', '0'], false)
    let (fromStart, digits) := match value with
      | '+' :: ds => (true, ds)
      | '-' :: ds => (false, ds)
      | ds => (false, ds)
    match size? digits with
    | none =>
      complainAs "tail" ("invalid number of ".toList ++
        (if bytes then "bytes: " else "lines: ").toList ++ quote value)
      return 1
    | some n =>
      partsOf "tail" a fun stream => do
        let text ← readAll stream
        if bytes then return text.drop (if fromStart then n - 1 else text.length - n)
        else
          let skipped := if fromStart then n - 1 else lineCount text - n
          return text.drop (firstLines skipped text).length)
  (withCount arguments)

/-! ## Counting -/

/-- The number of words of a text. -/
def wordCount (text : Octets) : Nat :=
  (text.foldl (fun (n, inside) c =>
    let blank := c = ' ' || (9 ≤ c.toNat && c.toNat ≤ 13)
    (if !blank && !inside then n + 1 else n, !blank)) (0, false)).1

/-- Numbers in columns. -/
def columns (width : Nat) (numbers : List Nat) : Octets :=
  [' '].intercalate (numbers.map fun n =>
    let shown := (toString n).toList
    List.replicate (width - shown.length) ' ' ++ shown)

/-- `wc`: the lines, words and bytes of the inputs. -/
def wc : Tool := withArguments "wc" "lwcm"
    [("lines", 'l'), ("words", 'w'), ("bytes", 'c'), ("chars", 'm')] 1 fun a => do
  let operands := if a.operands.isEmpty then [['-']] else a.operands
  let all := a.switches.isEmpty
  let wanted := [all || a.has 'l', all || a.has 'w', a.has 'm', all || a.has 'c']
  let counts := fun (text : Octets) =>
    ([text.count '\n', wordCount text, text.length, text.length].zip wanted).filterMap
      fun (n, on) => if on then some n else none
  let regular ← operands.mapM fun operand => do
    if operand = ['-'] then
      match ← channel? 0 with
      | some (_, .file ..) => return true
      | _ => return false
    else
      match ← nodeAt operand .follow with
      | .ok (_, .file ..) => return true
      | .ok _ => return false
      | .error _ => return true
  let found ← operands.mapM fun operand => do
    match ← withOperand operand readAll with
    | .ok text => return (some (operand, text), 0)
    | .error e =>
      complainAbout "wc" operand e
      -- a directory is opened, though nothing can be read from it
      return (if e = .isDirectory then some (operand, []) else none, 1)
  let status := if found.all (·.2 = 0) then 0 else 1
  let found := found.filterMap (·.1)
  let size := found.foldl (fun n (_, text) => n + text.length) 0
  let width :=
    if operands.length = 1 && (wanted.filter id).length = 1 then 1
    else if regular.all id then (toString size).length
    else 7
  for (operand, text) in found do
    let shown := columns width (counts text)
    out (shown ++ (if a.operands.isEmpty then [] else ' ' :: operand) ++ ['\n'])
  if operands.length > 1 then
    out (columns width (counts (found.flatMap (·.2))) ++ " total\n".toList)
  return status

/-- `seq`: the numbers from a first to a last one. -/
def seq : Tool := fun arguments => do
  let (separator, arguments) := match arguments with
    | ['-', 's'] :: s :: rest => (s, rest)
    | ('-' :: 's' :: c :: s) :: rest => (c :: s, rest)
    | rest => (['\n'], rest)
  let (wide, arguments) := match arguments with
    | ['-', 'w'] :: rest => (true, rest)
    | rest => (false, rest)
  let integer? : Octets → Option Int
    | '-' :: ds => (number? ds).map fun n => -(n : Int)
    | ds => (number? ds).map fun n => (n : Int)
  match arguments.find? fun x => (integer? x).isNone with
  | some bad =>
    misused "seq" ("invalid floating point argument: ".toList ++ quote bad) 1
  | none =>
    let numbers := arguments.filterMap integer?
    let run (first step last : Int) : Run Nat := do
      if step = 0 then misused "seq" "invalid Zero increment value: '0'".toList 1
      else
        let count := if step > 0 then (last - first) / step + 1 else (first - last) / (-step) + 1
        let shown := (List.range count.toNat).map fun (i : Nat) =>
          (toString (first + step * (i : Int))).toList
        let width := (shown.map List.length).foldl max 0
        let shown := if wide then
            shown.map fun ds => List.replicate (width - ds.length) '0' ++ ds
          else shown
        if !shown.isEmpty then out (separator.intercalate shown ++ ['\n'])
        return 0
    match numbers with
    | [last] => run 1 1 last
    | [first, last] => run first 1 last
    | [first, step, last] => run first step last
    | [] => misused "seq" "missing operand".toList 1
    | _ => misused "seq" ("extra operand ".toList ++ quote (arguments[3]?.getD [])) 1

/-- `yes`: a line again and again, as long as anyone reads it. -/
def yes : Tool := fun arguments => do
  let line := (if arguments.isEmpty then ['y'] else [' '].intercalate arguments) ++ ['\n']
  out (List.replicate (endless / 8 / line.length + 1) line).flatten
  return 141

/-! ## Characters -/

/-- The characters of a set of `tr`; the bound is the length of its text. -/
def setOf : Nat → Octets → Octets
  | 0, _ => []
  | _ + 1, [] => []
  | bound + 1, '[' :: ':' :: rest =>
    match className? rest with
    | some (name, more) =>
      let members := match characterClass? (String.ofList name) with
        | some test => ((List.range 256).map Char.ofNat).filter test
        | none => []
      members ++ setOf bound more
    | none => '[' :: setOf bound (':' :: rest)
  | bound + 1, c :: rest =>
    let (low, rest) := if c = '\\' then Format.escape rest else (c, rest)
    match rest with
    | '-' :: high :: more =>
      let (high, more) := if high = '\\' then Format.escape more else (high, more)
      let range := (List.range (high.toNat + 1 - low.toNat)).map fun i => Char.ofNat (low.toNat + i)
      range ++ setOf bound more
    | rest => low :: setOf bound rest

/-- Makes runs of a character of a set into one character. -/
def squeeze (set : Octets) : Octets → Octets
  | a :: b :: rest =>
    if a = b && set.contains a then squeeze set (b :: rest) else a :: squeeze set (b :: rest)
  | text => text

/-- `tr`: replaces, removes and squeezes characters. -/
def tr : Tool := withArguments "tr" "cCdst" [("delete", 'd'), ("squeeze-repeats", 's'),
    ("complement", 'c')] 1 fun a => do
  let sets := a.operands.map fun text => setOf text.length text
  let all := (List.range 256).map Char.ofNat
  let complement := a.has 'c' || a.has 'C'
  let first := fun (set : Octets) => if complement then all.filter (!set.contains ·) else set
  let told := fun (what why : String) (operand : Octets) => do
    complainAs "tr" ((what ++ " operand ").toList ++ operand)
    if !why.isEmpty then complain why.toList
    complain "Try 'tr --help' for more information.".toList
    return 1
  let limit := if a.has 'd' && !a.has 's' then 1 else 2
  match sets, a.operands[limit]? with
  | [], _ => misused "tr" "missing operand".toList 1
  | _, some extra =>
    told "extra" (if a.operands.length = 2 then
      "Only one string may be given when deleting without squeezing repeats." else "") (quote extra)
  | [set], none =>
    if a.has 'd' && !a.has 's' then
      let gone := first set
      out ((← readAll 0).filter (!gone.contains ·))
      return 0
    else if a.has 's' && !a.has 'd' then
      out (squeeze (first set) (← readAll 0))
      return 0
    else
      told "missing" (if a.has 'd' then
          "Two strings must be given when both deleting and squeezing repeats."
        else "Two strings must be given when translating.")
        ("after ".toList ++ quote (a.operands[0]?.getD []))
  | set :: target :: _, none =>
    let gone := first set
    let text ← readAll 0
    if a.has 'd' then
      let text := text.filter (!gone.contains ·)
      out (if a.has 's' then squeeze target text else text)
      return 0
    else
      match target.getLast? with
      | none =>
        complainAs "tr" "when not truncating set1, string2 must be non-empty".toList
        return 1
      | some last =>
        let padding := List.replicate (gone.length - target.length) last
        let pairs := (gone.zip (target ++ padding)).reverse
        let text := text.map fun c => (pairs.lookup c).getD c
        out (if a.has 's' then squeeze target text else text)
        return 0

/-! ## Fields -/

/-- One piece of a list of positions such as `1,3-5,7-`; a failure comes as its complaint, in
which positions go by the name of what they count. -/
def positionsOf (isField : Bool) (piece : Octets) : Except Octets (Nat × Option Nat) := do
  let number := fun (text : Octets) =>
    match number? text with
    | some 0 => .error (if isField then "fields are numbered from 1"
        else "byte/character positions are numbered from 1").toList
    | some n => .ok n
    | none => .error ((if isField then "invalid field value "
        else "invalid byte/character position ").toList ++ quote text)
  match Text.splitAt '-' piece with
  | [[]] => number ['0'] |>.map fun n => (n, some n)
  | [n] => (number n).map fun n => (n, some n)
  | [[], []] => .error "invalid range with no endpoint: -".toList
  | [[], high] => (number high).map fun n => (1, some n)
  | [low, []] => (number low).map fun n => (n, none)
  | [low, high] => do
    let low ← number low
    let high ← number high
    if high < low then .error "invalid decreasing range".toList else .ok (low, some high)
  | _ =>
    .error (if isField then "invalid field range" else "invalid byte or character range").toList

/-- The elements at positions, which count from 1. -/
def select {α : Type} (positions : List (Nat × Option Nat)) (elements : List α) : List α :=
  (elements.zipIdx 1).filterMap fun (x, i) =>
    if positions.any fun (low, high) => low ≤ i && high.all (i ≤ ·) then some x
    else none

/-- `cut`: some fields or characters of each line. -/
def cut : Tool := withArguments "cut" "d:f:c:b:s" [("delimiter", 'd'), ("fields", 'f'),
    ("characters", 'c'), ("bytes", 'b'), ("only-delimited", 's')] 1 fun a => do
  let delimiter := ((a.value? 'd').bind List.head?).getD '\t'
  let lists := a.switches.filter fun (c, _) => c = 'f' || c = 'c' || c = 'b'
  let isField := a.has 'f'
  let positions : Except Octets (List (Nat × Option Nat)) := match lists with
    | [] => .error "you must specify a list of bytes, characters, or fields".toList
    | _ :: _ :: _ => .error "only one list may be specified".toList
    | [(_, list)] =>
      if ((a.value? 'd').getD []).length > 1 then
        .error "the delimiter must be a single character".toList
      else if a.has 'd' && !isField then
        .error "an input delimiter may be specified only when operating on fields".toList
      else (Text.splitAt ',' list).mapM (positionsOf isField)
  match positions with
  | .error message => misused "cut" message 1
  | .ok positions =>
    let (text, status) ← input (complainAbout "cut") a.operands
    let lines := text.lines.filterMap fun line =>
      if a.has 'f' then
        let fields := Text.splitAt delimiter line
        if fields.length = 1 then (if a.has 's' then none else some line)
        else some ([delimiter].intercalate (select positions fields))
      else some (select positions line)
    out (Octets.ofLines lines)
    return status

/-! ## Order -/

/-- The number that a line begins with, in thousandths. -/
def leadingValue (line : Octets) : Int :=
  let body := line.dropWhile fun c => c = ' ' || c = '\t'
  let (negative, body) := match body with
    | '-' :: rest => (true, rest)
    | rest => (false, rest)
  let whole := body.takeWhile Char.isDigit
  let part := match body.drop whole.length with
    | '.' :: rest => rest.takeWhile Char.isDigit
    | _ => []
  let places := (part ++ ['0', '0', '0', '0', '0', '0']).take 6
  let n : Int := Nat.ofDigitChars 10 (whole ++ places) 0
  if negative then -n else n

/-- The fields of a line: between separators, or each with the blanks in front of it. -/
def sortFields (separator : Option Char) (line : Octets) : List Octets :=
  match separator with
  | some c => Text.splitAt c line
  | none =>
    let step := fun (fields : List Octets) (c : Char) =>
      let blank := c = ' ' || c = '\t'
      match fields with
      | field :: more =>
        if blank && (field.head?.map fun d => d ≠ ' ' && d ≠ '\t').getD false then [c] :: fields
        else (c :: field) :: more
      | [] => [[c]]
    ((line.foldl step []).map List.reverse).reverse

/-- The part of a line by which it is sorted. -/
def sortKey (a : Arguments) (line : Octets) : Octets × Bool :=
  match a.value? 'k' with
  | none => (line, a.has 'n')
  | some spec =>
    let pieces := Text.splitAt ',' spec
    let first := pieces.head?.getD []
    let last := pieces[1]?
    let numeric := spec.contains 'n' || a.has 'n'
    let index := fun (t : Octets) => Nat.ofDigitChars 10 (t.takeWhile Char.isDigit) 0
    let separator := (a.value? 't').bind List.head?
    let fields := sortFields separator line
    let fields := match last with
      | some l => fields.take (index l)
      | none => fields
    let glue := match separator with
      | some c => [c]
      | none => []
    (glue.intercalate (fields.drop (index first - 1)), numeric)

/-- Is one line not behind another one? -/
def sortsBefore (a : Arguments) (x y : Octets) : Bool :=
  let (kx, numeric) := sortKey a x
  let (ky, _) := sortKey a y
  let fold := fun (t : Octets) => if a.has 'f' then t.map Char.toUpper else t
  let kx := fold kx
  let ky := fold ky
  let order :=
    if numeric then compare (leadingValue kx) (leadingValue ky)
    else if kx = ky then .eq else if Octets.upTo kx ky then .lt else .gt
  let order := if a.has 'r' then order.swap else order
  match order with
  | .lt => true
  | .gt => false
  | .eq => if a.has 'u' || a.has 's' then true else if a.has 'r' then y.upTo x else x.upTo y

/-- Drops each element that an earlier neighbour stands for. -/
def dropRepeats {α : Type} (same : α → α → Bool) : List α → List α
  | x :: y :: rest =>
    if same x y then dropRepeats same (x :: rest) else x :: dropRepeats same (y :: rest)
  | l => l
  termination_by l => l.length

/-- `sort`: the lines of all inputs in order. -/
def sort : Tool := withArguments "sort" "nrufsk:t:bo:" [("reverse", 'r'), ("unique", 'u'),
    ("numeric-sort", 'n'), ("key", 'k')] 2 fun a => do
  let operands := if a.operands.isEmpty then [['-']] else a.operands
  let found ← operands.mapM fun operand => do
    match ← withOperand operand readAll with
    | .ok text => return some text.lines
    | .error e =>
      let what := if e = .isDirectory then "read failed: " else "cannot read: "
      complainAs "sort" (what.toList ++ showPath operand ++ ": ".toList ++ reason e)
      return none
  if found.any Option.isNone then return 2
  let lines := (found.filterMap id).flatten.mergeSort (sortsBefore a)
  let lines := if a.has 'u' then
      dropRepeats (fun x y => sortsBefore a x y && sortsBefore a y x) lines
    else lines
  out (Octets.ofLines lines)
  return 0

/-- Neighbouring equal lines together, with their number. -/
def runs (same : Octets → Octets → Bool) : List Octets → List (Nat × Octets) :=
  List.foldr (fun line groups => match groups with
    | (n, other) :: rest => if same line other then (n + 1, line) :: rest else (1, line) :: groups
    | [] => [(1, line)]) []

/-- `uniq`: each line once where equal ones are neighbours. -/
def uniq : Tool := withAtMost 2 "uniq" "cdui" [("count", 'c'), ("repeated", 'd'), ("unique", 'u')]
    1 fun a => do
  let complaint := fun path e =>
    if e = .isDirectory then
      complainAs "uniq" ("error reading ".toList ++ quotePath path ++ ": ".toList ++ reason e)
    else complainAbout "uniq" path e
  let (text, status) ← input complaint (a.operands.take 1)
  let same := fun (x y : Octets) =>
    if a.has 'i' then x.map Char.toLower == y.map Char.toLower else x == y
  let groups := (runs same text.lines).filter fun (n, _) =>
    if a.has 'd' then n > 1 else if a.has 'u' then n = 1 else true
  out (Octets.ofLines (groups.map fun (n, line) =>
    if a.has 'c' then columns 7 [n] ++ ' ' :: line else line))
  return status

end TestRig.Shell.Tool
