/-
  TestRig.Shell.Condition

  The expressions of `test`: properties of files and comparisons of texts and
  numbers, joined by `!`, `-a` and `-o`.
-/
import TestRig.Shell.Arithmetic
import TestRig.Shell.State

namespace TestRig.Shell.Condition

/-- What is wrong with an expression, in words. -/
abbrev Fault := Octets

/-- An expression as far as it is evaluated: the truth of what was read, and the words behind it. -/
abbrev Step := Except Fault (Bool × List Octets)

def unaryOperators : List String :=
  ["-r", "-w", "-x", "-e", "-f", "-d", "-c", "-b", "-p", "-u", "-g", "-k", "-s", "-t", "-z", "-n",
   "-h", "-L", "-S", "-O", "-G"]

def binaryOperators : List String :=
  ["=", "!=", "<", ">", "-eq", "-ne", "-ge", "-gt", "-le", "-lt", "-nt", "-ot", "-ef"]

def isUnary (word : Octets) : Bool := unaryOperators.contains (String.ofList word)

def isBinary (word : Octets) : Bool := binaryOperators.contains (String.ofList word)

/-- An integer of the expression. -/
def number (word : Octets) : Except Fault Int :=
  let blank := fun c => c = ' ' || c = '\t' || c = '\n'
  let body := ((word.dropWhile blank).reverse.dropWhile blank).reverse
  let (negative, ds) := match body with
    | '-' :: ds => (true, ds)
    | '+' :: ds => (false, ds)
    | ds => (false, ds)
  if ds.isEmpty || !ds.all Char.isDigit then .error ("Illegal number: ".toList ++ word)
  else
    let n : Int := Nat.ofDigitChars 10 ds 0
    .ok (if negative then -n else n)

/-- A property of a text or of the file that it names.  The superuser may read and write
everything. -/
def unary (fs : FileSystem) (op : String) (word : Octets) : Except Fault Bool :=
  let node := fs.find word.toBytes .follow
  let holds := fun (p : Node → Bool) => match node with
    | .ok (_, n) => p n
    | .error _ => false
  match op with
  | "-z" => .ok word.isEmpty
  | "-n" => .ok !word.isEmpty
  | "-t" => (number word).map fun _ => false
  | "-d" => .ok (holds Node.isDirectory)
  | "-f" => .ok (holds Node.isFile)
  | "-c" => .ok (holds fun
    | .device _ => true
    | _ => false)
  | "-s" => .ok (holds fun
    | .file _ content => !content.isEmpty
    | .directory _ => true
    | _ => false)
  | "-x" => .ok (holds fun
    | .file mode _ => mode &&& 0o111 ≠ 0
    | .directory _ => true
    | _ => false)
  | "-k" => .ok (holds fun
    | .file mode _ | .directory mode => mode &&& 0o1000 ≠ 0
    | _ => false)
  | "-h" | "-L" => .ok (match fs.find word.toBytes .keep with
    | .ok (_, n) => n.isLink
    | .error _ => false)
  | "-b" | "-p" | "-S" | "-u" | "-g" => .ok false
  | _ => .ok (holds fun _ => true)

/-- A comparison of two texts or numbers. -/
def binary (fs : FileSystem) (op : String) (left right : Octets) : Except Fault Bool := do
  let compare := fun (p : Int → Int → Bool) => do
    let a ← number left
    let b ← number right
    .ok (p a b)
  match op with
  | "=" => .ok (left = right)
  | "!=" => .ok (left ≠ right)
  | "<" => .ok (left < right)
  | ">" => .ok (right < left)
  | "-eq" => compare (· = ·)
  | "-ne" => compare (· ≠ ·)
  | "-ge" => compare (· ≥ ·)
  | "-gt" => compare (· > ·)
  | "-le" => compare (· ≤ ·)
  | "-lt" => compare (· < ·)
  | "-ef" =>
    .ok (match fs.locate left.toBytes .follow, fs.locate right.toBytes .follow with
      | .ok a, .ok b => a = b && (fs.lookup a).isSome
      | _, _ => false)
  | _ => .ok false

/-- Is a word an operator in front of these others?  A word that looks like one is an operand when
nothing follows it, or a comparison does. -/
def unaryHere (word : Octets) (rest : List Octets) : Bool :=
  isUnary word && match rest with
  | [] => false
  | [_] => true
  | next :: _ :: _ => !isBinary next

/-- Reads a term: a text, a property, a comparison, or an expression in parentheses. -/
def primary (fs : FileSystem) (inner : List Octets → Step) (words : List Octets) : Step :=
  match words with
  | [] => .ok (false, [])
  | ['('] :: second :: rest =>
    if second = [')'] then .ok (false, rest)
    else do
      match ← inner (second :: rest) with
      | (truth, [')'] :: rest) => .ok (truth, rest)
      | _ => .error "closing paren expected".toList
  | word :: rest =>
    if unaryHere word rest then
      match rest with
      | operand :: rest => (unary fs (String.ofList word) operand).map fun truth => (truth, rest)
      | [] => .error (word ++ ": argument expected".toList)
    else
      match rest with
      | op :: more =>
        if isBinary op then
          match more with
          | right :: rest =>
            (binary fs (String.ofList op) word right).map fun truth => (truth, rest)
          | [] => .error (op ++ ": argument expected".toList)
        else .ok (!word.isEmpty, rest)
      | [] => .ok (!word.isEmpty, [])

/-- Reads an expression: terms with `!` in front of them, joined by `-a`, and these by `-o`. -/
def expression (fs : FileSystem) : Nat → List Octets → Step
  | 0, words => .ok (false, words)
  | bound + 1, words => do
    let (left, rest) ← conjunction bound bound words
    match rest with
    | ['-', 'o'] :: rest =>
      let (right, rest) ← expression fs bound rest
      .ok (left || right, rest)
    | rest => .ok (left, rest)
where
  conjunction (bound : Nat) : Nat → List Octets → Step
    | 0, words => .ok (false, words)
    | turns + 1, words => do
      let (left, rest) ← negation bound bound words
      match rest with
      | ['-', 'a'] :: rest =>
        let (right, rest) ← conjunction bound turns rest
        .ok (left && right, rest)
      | rest => .ok (left, rest)
  negation (bound : Nat) : Nat → List Octets → Step
    | 0, words => .ok (false, words)
    | turns + 1, words =>
      match words with
      | ['!'] :: next :: rest => do
        let (truth, rest) ← negation bound turns (next :: rest)
        .ok (!truth, rest)
      | words => primary fs (expression fs bound) words

/-- Does an expression hold? -/
def evaluate (fs : FileSystem) : Nat → List Octets → Except Fault Bool
  | 0, _ => .ok false
  | _ + 1, [] => .ok false
  | bound + 1, words =>
    -- What is left behind an expression is a fault, which names the last word that was read.
    let general := do
      let (truth, rest) ← expression fs (words.length + 2) words
      if rest.isEmpty then .ok truth
      else
        let last := (words[words.length - rest.length - 1]?).getD []
        .error (last ++ ": unexpected operator".toList)
    match words with
    | [left, op, right] =>
      if isBinary op then binary fs (String.ofList op) left right
      else shaped bound words general
    | [_, _, _, _] => shaped bound words general
    | _ => general
where
  /-- Three and four words are also read as a negation, or as an expression in parentheses. -/
  shaped (bound : Nat) (words : List Octets) (general : Except Fault Bool) : Except Fault Bool :=
    if words.head? = some ['('] && words.getLast? = some [')'] then
      evaluate fs bound (words.drop 1).dropLast
    else if words.head? = some ['!'] then (evaluate fs bound (words.drop 1)).map (!·)
    else general

/-- Does an expression of `test` hold? -/
def holds (fs : FileSystem) (words : List Octets) : Except Fault Bool :=
  evaluate fs (words.length + 1) words

end TestRig.Shell.Condition
