/-
  TestRig.Shell.Arithmetic

  The value of arithmetic expressions.  Numbers have sixty-four bits and wrap around;
  division goes toward zero.  Expressions can assign to variables, so evaluating one
  also gives the assignments that it makes.
-/
import TestRig.Shell.Script

namespace TestRig.Shell.Arithmetic

/-- Why an expression has no value. -/
inductive Fault where
  | expectingPrimary
  | expectingEnd
  | expectingClose
  | expectingColon
  | divisionByZero
  /-- The value of a variable is no number. -/
  | illegalNumber (text : Octets)
  deriving DecidableEq

/-- The variables: their values by name, and the values assigned so far, last one first. -/
structure Variables where
  value? : Octets → Option Octets
  assigned : List (Octets × Int64) := []

/-- An expression as far as it is evaluated. -/
structure Scan where
  rest : Octets
  known : Variables
  /-- Does the value of what comes next count?  It does not behind `0 &&`, for instance. -/
  counts : Bool := true

/-- Evaluators of expressions. -/
abbrev Eval := StateT Scan (Except Fault)

/-! ## Numbers -/

/-- The value of a digit. -/
def digit? (c : Char) : Option Nat :=
  if c.isDigit then some (c.toNat - 48)
  else if 'a' ≤ c && c ≤ 'f' then some (c.toNat - 87)
  else if 'A' ≤ c && c ≤ 'F' then some (c.toNat - 55)
  else none

/-- The number of digits to a base. -/
def ofDigits? (base : Nat) (digits : Octets) : Option Nat :=
  digits.foldlM (fun n c => do
    let d ← digit? c
    if d < base then some (n * base + d) else none) 0

/-- The number of a constant: decimal, octal behind `0`, hexadecimal behind `0x`. -/
def constant? : Octets → Option Nat
  | '0' :: 'x' :: digits | '0' :: 'X' :: digits =>
    if digits.isEmpty then none else ofDigits? 16 digits
  | '0' :: digits => ofDigits? 8 digits
  | digits => if digits.isEmpty then none else ofDigits? 10 digits

/-- A number of any size in sixty-four bits; one that is too large is the largest. -/
def bounded (n : Int) : Int64 := Int64.ofInt (max (-0x8000000000000000) (min n 0x7FFFFFFFFFFFFFFF))

/-- The number that the value of a variable stands for. -/
def valueOf? (text : Octets) : Option Int64 :=
  let blank := fun c => c = ' ' || c = '\t' || c = '\n'
  let text := (text.dropWhile blank).reverse.dropWhile blank |>.reverse
  match text with
  | [] => some 0
  | '-' :: digits => (constant? digits).map fun n => bounded (-n)
  | '+' :: digits => (constant? digits).map fun n => bounded n
  | digits => (constant? digits).map fun n => bounded n

/-! ## Operators -/

def ofBool (b : Bool) : Int64 := if b then 1 else 0

/-- The binary operators other than `&&` and `||`, with their levels: a higher level binds
tighter. -/
def binary (level : Nat) : List (String × (Int64 → Int64 → Except Fault Int64)) :=
  let pure2 := fun (f : Int64 → Int64 → Int64) => fun a b => Except.ok (f a b)
  let divide := fun (f : Int64 → Int64 → Int64) => fun a b =>
    if b = 0 then Except.error Fault.divisionByZero else .ok (f a b)
  match level with
  | 2 => [("|", pure2 (· ||| ·))]
  | 3 => [("^", pure2 (· ^^^ ·))]
  | 4 => [("&", pure2 (· &&& ·))]
  | 5 => [("==", pure2 fun a b => ofBool (a = b)), ("!=", pure2 fun a b => ofBool (a ≠ b))]
  | 6 => [("<=", pure2 fun a b => ofBool (a ≤ b)), (">=", pure2 fun a b => ofBool (b ≤ a)),
          ("<", pure2 fun a b => ofBool (a < b)), (">", pure2 fun a b => ofBool (b < a))]
  | 7 => [("<<", pure2 (· <<< ·)), (">>", pure2 (· >>> ·))]
  | 8 => [("+", pure2 (· + ·)), ("-", pure2 (· - ·))]
  | 9 => [("*", pure2 (· * ·)), ("/", divide (· / ·)), ("%", divide (· % ·))]
  | _ => []

/-- Texts that begin like an operator of a level and are something else. -/
def notBinary : List String :=
  ["||", "&&", "<<=", ">>=", "+=", "-=", "*=", "/=", "%=", "&=", "|=", "^="]

/-- The compound assignments with the operators that they apply. -/
def compound : List (String × (Int64 → Int64 → Except Fault Int64)) :=
  ([2, 3, 4, 7, 8, 9].flatMap binary).map fun (sign, f) => (sign ++ "=", f)

/-! ## Evaluation -/

/-- Passes over blanks. -/
def skipBlanks : Eval Unit := modify fun s =>
  { s with rest := s.rest.dropWhile fun c => c = ' ' || c = '\t' || c = '\n' }

/-- Does the text come next? -/
def comes (text : String) : Eval Bool := do
  skipBlanks
  return text.toList.isPrefixOf (← get).rest

/-- Passes over a text if it comes next. -/
def accept (text : String) : Eval Bool := do
  if ← comes text then
    modify fun s => { s with rest := s.rest.drop text.length }
    return true
  else return false

/-- The number that a variable holds. -/
def valueOf (name : Octets) : Eval Int64 := do
  let v := (← get).known
  match v.assigned.lookup name with
  | some n => return n
  | none =>
    let text := (v.value? name).getD []
    match valueOf? text with
    | some n => return n
    | none => throw (.illegalNumber text)

/-- Gives a variable a number. -/
def assign (name : Octets) (n : Int64) : Eval Unit := modify fun s =>
  { s with known := { s.known with assigned := (name, n) :: s.known.assigned } }

/-- Evaluates an expression whose value and assignments may not count. -/
def when (counts : Bool) (e : Eval Int64) : Eval Int64 := do
  let before ← get
  set { before with counts := before.counts && counts }
  let n ← e
  let after ← get
  set { after with
    counts := before.counts
    known := if counts then after.known else before.known }
  return n

/-- Applies an operator; where the value does not count, nothing can go wrong. -/
def apply (f : Int64 → Int64 → Except Fault Int64) (a b : Int64) : Eval Int64 := do
  match f a b with
  | .ok n => return n
  | .error fault => if (← get).counts then throw fault else return 0

/-- Evaluates an expression of a level: 0 is assignment and `?:`, 1 to 9 are binary operators, 10
is a primary. -/
def expression : Nat → Nat → Eval Int64
  | 0, _ => throw .expectingPrimary
  | bound + 1, level => do
    match level with
    | 0 => assignment bound
    | 1 => disjunction bound
    | 10 => primary bound
    | level =>
      let first ← expression bound (level + 1)
      chain bound level bound first
where
  assignment (bound : Nat) : Eval Int64 := do
    skipBlanks
    let before ← get
    let name := before.rest.takeWhile fun c => c.isAlphanum || c = '_'
    if (name.head?.map fun c => !c.isDigit).getD false then
      modify fun s => { s with rest := s.rest.drop name.length }
      if !(← comes "==") then
        if ← accept "=" then
          let n ← expression bound 0
          assign name n
          return n
      for (sign, f) in compound do
        if ← accept sign then
          let left ← valueOf name
          let right ← expression bound 0
          let n ← apply f left right
          assign name n
          return n
      set before
    let condition ← expression bound 1
    if ← accept "?" then
      let yes ← when (condition ≠ 0) (expression bound 0)
      if !(← accept ":") then throw .expectingColon
      let no ← when (condition = 0) (expression bound 0)
      return if condition ≠ 0 then yes else no
    else return condition
  disjunction (bound : Nat) : Eval Int64 := do
    let first ← conjunction bound
    orChain bound bound first
  orChain (bound : Nat) : Nat → Int64 → Eval Int64
    | 0, n => return n
    | turns + 1, left => do
      if ← accept "||" then
        let right ← when (left = 0) (conjunction bound)
        orChain bound turns (ofBool (left ≠ 0 || right ≠ 0))
      else return left
  conjunction (bound : Nat) : Eval Int64 := do
    let first ← expression bound 2
    andChain bound bound first
  andChain (bound : Nat) : Nat → Int64 → Eval Int64
    | 0, n => return n
    | turns + 1, left => do
      if ← accept "&&" then
        let right ← when (left ≠ 0) (expression bound 2)
        andChain bound turns (ofBool (left ≠ 0 && right ≠ 0))
      else return left
  chain (bound level : Nat) : Nat → Int64 → Eval Int64
    | 0, n => return n
    | turns + 1, left => do
      for text in notBinary do
        if ← comes text then return left
      for (sign, f) in binary level do
        if ← accept sign then
          let right ← expression bound (level + 1)
          return ← chain bound level turns (← apply f left right)
      return left
  primary (bound : Nat) : Eval Int64 := do
    if ← accept "(" then
      let n ← expression bound 0
      if !(← accept ")") then throw .expectingClose
      return n
    if ← accept "!" then return ofBool ((← expression bound 10) = 0)
    if ← accept "~" then return ~~~(← expression bound 10)
    if ← accept "-" then return -(← expression bound 10)
    if ← accept "+" then return ← expression bound 10
    let text := (← get).rest.takeWhile fun c => c.isAlphanum || c = '_'
    modify fun s => { s with rest := s.rest.drop text.length }
    match text with
    | [] => throw .expectingPrimary
    | c :: _ =>
      if c.isDigit then
        match constant? text with
        | some n => return bounded n
        | none => throw .expectingEnd
      else valueOf text

/-- The value of an expression, and the assignments that it makes, the last ones last. -/
def evaluate (value? : Octets → Option Octets) (text : Octets) :
    Except Fault (Int64 × List (Octets × Int64)) := do
  let whole : Eval Int64 := do
    let n ← expression (13 * (text.length + 2)) 0
    skipBlanks
    if !(← get).rest.isEmpty then throw .expectingEnd
    return n
  let (n, s) ← whole.run { rest := text, known := { value? } }
  return (n, s.known.assigned.reverse)

/-- The wording of a fault in an expression. -/
def Fault.message (expression : Octets) : Fault → Octets
  | illegalNumber text => "Illegal number: ".toList ++ text
  | fault =>
    let what := match fault with
      | expectingPrimary => "expecting primary"
      | expectingEnd => "expecting EOF"
      | expectingClose => "expecting ')'"
      | expectingColon => "expecting ':'"
      | divisionByZero => "division by zero"
      | illegalNumber _ => ""
    ("arithmetic expression: " ++ what ++ ": \"").toList ++ expression ++ ['"']

end TestRig.Shell.Arithmetic
