/-
  TestRig.Shell.Tool.Expression

  The tool that evaluates an expression, a word for each value and each operator.
  Values are texts; one that reads as an integer counts as that number.
-/
import TestRig.Shell.Regex
import TestRig.Shell.Tool.Basic
import TestRig.Text.Search

namespace TestRig.Shell.Tool

open Run

namespace Expression

/-! ## Values -/

/-- The integer that a value reads as. -/
def integer? : Octets → Option Int
  | '-' :: ds => (number? ds).map fun n => -(n : Int)
  | ds => (number? ds).map fun n => (n : Int)

/-- Is a value empty or zero? -/
def isNull (value : Octets) : Bool := value.isEmpty || integer? value = some 0

/-- The value of a number. -/
def ofInt (n : Int) : Octets := (toString n).toList

/-- The value of a condition. -/
def ofBool (b : Bool) : Octets := if b then ['1'] else ['0']

/-- The order of two values: that of numbers where both are, else that of texts. -/
def order (x y : Octets) : Ordering :=
  match integer? x, integer? y with
  | some a, some b => compare a b
  | _, _ => if x = y then .eq else if Octets.upTo x y then .lt else .gt

/-- What a pattern matches at the beginning of a text: its first group, or, where it has no groups,
the number of characters. -/
def matched (text pattern : Octets) : Except Octets Octets :=
  match Regex.ofText? false pattern with
  | none => .error "Unmatched ( or \\(".toList
  | some r =>
    let grouped := Text.occursIn ['\\', '('] pattern
    match Regex.matchAt? r ⟨[], text, []⟩ with
    | some m => .ok (if grouped then (m.groups.lookup 1).getD [] else ofInt m.text.length)
    | none => .ok (if grouped then [] else ['0'])

/-- The binary operators, those that bind least first. -/
def operators : List (List String) :=
  [["|"], ["&"], ["<", "<=", "=", "==", "!=", ">=", ">"], ["+", "-"], ["*", "/", "%"], [":"]]

/-- The value of two values joined by an operator. -/
def combine (op : String) (x y : Octets) : Except Octets Octets :=
  let arithmetic := fun (f : Int → Int → Except Octets Int) =>
    match integer? x, integer? y with
    | some a, some b => (f a b).map ofInt
    | _, _ => .error "non-integer argument".toList
  let divided := fun (f : Int → Int → Int) =>
    arithmetic fun a b => if b = 0 then .error "division by zero".toList else .ok (f a b)
  match op with
  | "|" => .ok (if !isNull x then x else if isNull y then ['0'] else y)
  | "&" => .ok (if isNull x || isNull y then ['0'] else x)
  | "<" => .ok (ofBool (order x y = .lt))
  | "<=" => .ok (ofBool (order x y ≠ .gt))
  | "=" | "==" => .ok (ofBool (order x y = .eq))
  | "!=" => .ok (ofBool (order x y ≠ .eq))
  | ">=" => .ok (ofBool (order x y ≠ .lt))
  | ">" => .ok (ofBool (order x y = .gt))
  | "+" => arithmetic fun a b => .ok (a + b)
  | "-" => arithmetic fun a b => .ok (a - b)
  | "*" => arithmetic fun a b => .ok (a * b)
  | "/" => divided Int.tdiv
  | "%" => divided Int.tmod
  | _ => matched x y

/-! ## Reading -/

/-- The word read last, and the words behind it. -/
structure Words where
  last : Octets := []
  rest : List Octets

/-- A reading of words; what is wrong with them is told in words. -/
abbrev Read := StateT Words (Except Octets)

/-- The complaint that the words do not follow the grammar. -/
def misread {α : Type} (what : String) (word : Octets) : Read α :=
  throw ("syntax error: ".toList ++ what.toList ++ ' ' :: quote word)

/-- The next word. -/
def next : Read Octets := do
  match ← get with
  | ⟨last, []⟩ => misread "missing argument after" last
  | ⟨_, word :: rest⟩ =>
    set (⟨word, rest⟩ : Words)
    return word

/-- Reads the next word if it is the one asked for. -/
def accept (word : String) : Read Bool := do
  if (← get).rest.head? = some word.toList then
    let _ ← next
    return true
  else return false

/-- The positions of a part of a text, from one on; a part that begins nowhere is empty. -/
def part (text start length : Octets) : Octets :=
  match integer? start, integer? length with
  | some s, some n => if s ≤ 0 || n ≤ 0 then [] else (text.drop (s.toNat - 1)).take n.toNat
  | _, _ => []

/-- Joins operands of one kind from the left; the bound is the number of words.  An operand that
does not matter for the value is read, but not evaluated. -/
def chain (operand : Bool → Read Octets) (ops : List String) (live : Bool) :
    Nat → Octets → Read Octets
  | 0, left => return left
  | bound + 1, left => do
    match (← get).rest.head?.map String.ofList with
    | none => return left
    | some op =>
      if !ops.contains op then return left
      let _ ← next
      let matters := match op with
        | "|" => isNull left
        | "&" => !isNull left
        | _ => true
      let right ← operand (live && matters)
      match if live && (matters || op = "|" || op = "&") then combine op left right
        else .ok left with
      | .ok value => chain operand ops live bound value
      | .error message => throw message

/-- The value of the next words, with operators of the given kinds; `live` says whether the value
matters.  The bound exceeds the number of words by the number of kinds for each. -/
def value : Nat → List (List String) → Bool → Read Octets
  | 0, _, _ => throw "syntax error".toList
  | bound + 1, ops :: kinds, live => do
    let operand := value bound kinds
    chain operand ops live (← get).rest.length (← operand live)
  | bound + 1, [], live => do
    if ← accept "+" then next
    else if ← accept "length" then return ofInt (← value bound [] live).length
    else if ← accept "match" then
      let text ← value bound [] live
      let pattern ← value bound [] live
      match matched text pattern with
      | .ok found => return found
      | .error message => throw message
    else if ← accept "index" then
      let text ← value bound [] live
      let letters ← value bound [] live
      return ofInt (((text.findIdx? letters.contains).map (· + 1)).getD 0 : Nat)
    else if ← accept "substr" then
      let text ← value bound [] live
      let start ← value bound [] live
      return part text start (← value bound [] live)
    else if ← accept "(" then
      let inner ← value bound operators live
      match ← get with
      | ⟨last, []⟩ => misread "expecting ')' after" last
      | ⟨_, word :: _⟩ =>
        if ← accept ")" then return inner else misread "expecting ')' instead of" word
    else if ← accept ")" then throw "syntax error: unexpected ')'".toList
    else next

/-- The value of all words. -/
def evaluate (words : List Octets) : Except Octets Octets :=
  let bound := (words.length + 1) * (operators.length + 1) + 1
  match (value bound operators true).run { rest := words } with
  | .error message => .error message
  | .ok (result, ⟨_, []⟩) => .ok result
  | .ok (_, ⟨_, extra :: _⟩) =>
    .error ("syntax error: unexpected argument ".toList ++ quote extra)

end Expression

/-- `expr`: the value of an expression. -/
def expr : Tool := fun arguments => do
  let words := if arguments.head? = some "--".toList then arguments.drop 1 else arguments
  if words.isEmpty then misused "expr" "missing operand".toList 2
  else match Expression.evaluate words with
    | .ok value =>
      out (value ++ ['\n'])
      return if Expression.isNull value then 1 else 0
    | .error message =>
      complainAs "expr" message
      return 2

end TestRig.Shell.Tool
