/-
  TestRig.Shell.Tool.Comparison

  Two files compared byte by byte: the place of the first difference, or all of
  them.
-/
import TestRig.Shell.Tool.Basic

namespace TestRig.Shell.Tool

open Run

/-- What a comparison finds first.  Bytes and lines count from one. -/
inductive Comparison where
  | same
  | differs (byte line : Nat)
  /-- One text, the first or the second, is the beginning of the other. -/
  | ends (first : Bool)

/-- Compares the rests of two texts, in front of which stand bytes and ends of lines. -/
def compareFrom (bytes ends : Nat) : Octets → Octets → Comparison
  | [], [] => .same
  | [], _ :: _ => .ends true
  | _ :: _, [] => .ends false
  | x :: xs, y :: ys =>
    if x = y then compareFrom (bytes + 1) (if x = '\n' then ends + 1 else ends) xs ys
    else .differs (bytes + 1) (ends + 1)

/-- The lines of all differences: the number of the byte and its two values in octal digits. -/
def differences (width : Nat) (xs ys : Octets) : List Octets :=
  let column := fun (width base n : Nat) =>
    let ds := Nat.toDigits base n
    List.replicate (width - ds.length) ' ' ++ ds
  ((xs.zip ys).zipIdx.filter fun ((x, y), _) => x ≠ y).map fun ((x, y), i) =>
    column width 10 (i + 1) ++ ' ' :: column 3 8 x.toNat ++ ' ' :: column 3 8 y.toNat

/-- How far a text reaches, for the complaint that it ends before the other one. -/
def extent (text : Octets) (withLine : Bool) : String :=
  let ends := text.count '\n'
  if text.isEmpty then " which is empty"
  else " after byte " ++ toString text.length ++
    (if !withLine then ""
    else if text.getLast? = some '\n' then ", line " ++ toString ends
    else ", in line " ++ toString (ends + 1))

/-- The verdict of `cmp` on two named texts, with its complaint or line. -/
def judge (a : Arguments) (first second : Octets × Octets) : Run Nat := do
  let silent := a.has 's'
  let listing := a.has 'l'
  if listing && !silent then
    let width := (Nat.toDigits 10 (min first.2.length second.2.length)).length
    out (Octets.ofLines (differences width first.2 second.2))
  let ended := fun (text : Octets × Octets) =>
    if silent then return ()
    else complainAs "cmp" ("EOF on ".toList ++ text.1 ++ (extent text.2 !listing).toList)
  match compareFrom 0 0 first.2 second.2 with
  | .same => return 0
  | .ends isFirst =>
    ended (if isFirst then first else second)
    return 1
  | .differs byte line =>
    if listing then
      if first.2.length < second.2.length then ended first
      else if second.2.length < first.2.length then ended second
    else if !silent then
      out (first.1 ++ ' ' :: second.1)
      print (" differ: char " ++ toString byte ++ ", line " ++ toString line ++ "\n")
    return 1

/-- `cmp`: where do two files differ? -/
def cmp : Tool := withArguments "cmp" "sln:" [("silent", 's'), ("quiet", 's'), ("verbose", 'l'),
    ("bytes", 'n')] 2 fun a => do
  let read := fun (path : Octets) => do
    match ← withOperand path readAll with
    | .ok text =>
      let kept := match (a.value? 'n').bind size? with
        | some n => text.take n
        | none => text
      return some (path, kept)
    | .error e =>
      if !a.has 's' then complainAs "cmp" (path ++ ": ".toList ++ reason e)
      return none
  match a.operands with
  | [] =>
    complainAs "cmp" "missing operand after 'cmp'".toList
    complainAs "cmp" "Try 'cmp --help' for more information.".toList
    return 2
  | first :: more =>
    let second := more.head?.getD ['-']
    let place := fun (path : Octets) => do
      return (← nodeAt path .follow).toOption.map (·.1)
    -- a file is the same as itself, even where it cannot be read
    if let some here := ← place first then
      if first ≠ ['-'] && second ≠ ['-'] && (← place second) = some here then return 0
    match ← read first with
    | none => return 2
    | some one =>
      match ← read second with
      | none => return 2
      | some two => judge a one two

end TestRig.Shell.Tool
