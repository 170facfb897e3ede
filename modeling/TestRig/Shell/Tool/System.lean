/-
  TestRig.Shell.Tool.System

  Tools that tell about the machine, and those that let time pass.
-/
import TestRig.Shell.Tool.Basic
import TestRig.Text.Search

namespace TestRig.Shell.Tool

open Run

/-- The nanoseconds of a time such as `0.5` or `2m`. -/
def time? (text : Octets) : Option Nat := do
  let whole := text.takeWhile Char.isDigit
  let rest := text.drop whole.length
  let (part, unit) := match rest with
    | '.' :: more => (more.takeWhile Char.isDigit, more.dropWhile Char.isDigit)
    | rest => ([], rest)
  if whole.isEmpty && part.isEmpty then none
  else
    let factor ← match String.ofList unit with
      | "" | "s" => some 1
      | "m" => some 60
      | "h" => some 3600
      | "d" => some 86400
      | _ => none
    let nanos := (part ++ List.replicate 9 '0').take 9
    return (Nat.ofDigitChars 10 whole 0 * 1000000000 + Nat.ofDigitChars 10 nanos 0) * factor

/-- `sleep`: waits. -/
def sleep : Tool := fun arguments =>
  if arguments.isEmpty then misused "sleep" "missing operand".toList 1
  else
    match arguments.find? fun a => (time? a).isNone with
    | some ('-' :: c :: _) => misused "sleep" ("invalid option -- ".toList ++ quote [c]) 1
    | some bad => misused "sleep" ("invalid time interval ".toList ++ quote bad) 1
    | none => do
      spend ((arguments.filterMap time?).foldl (· + ·) 0)
      return 0

/-- The pieces of a text between the characters of a kind, without the empty ones. -/
def pieces (isBreak : Char → Bool) (text : Octets) : List Octets :=
  (text.foldr (fun c (items : List Octets) =>
    if isBreak c then [] :: items
    else match items with
      | item :: rest => (c :: item) :: rest
      | [] => [[c]]) [[]]).filter (!·.isEmpty)

/-- The command lines that `xargs` makes of its arguments and of the words that it reads. -/
def commandLines (arguments : List Octets) (text : Octets) : List (List Octets) :=
  let words := pieces (fun c => c = ' ' || c = '\t' || c = '\n') text
  let given := fun (command : List Octets) => if command.isEmpty then ["echo".toList] else command
  let once := fun (command : List Octets) => [given command ++ words]
  let forLines := fun (mark : Octets) (command : List Octets) =>
    (pieces (· = '\n') text).map fun line =>
      (given command).map (Text.replaceAll mark (line.dropWhile fun c => c = ' ' || c = '\t'))
  let inGroups := fun (size : Octets) (command : List Octets) =>
    match number? size with
    | some (n + 1) =>
      (List.range (max 1 ((words.length + n) / (n + 1)))).map fun i =>
        given command ++ (words.drop (i * (n + 1))).take (n + 1)
    | _ => once command
  match arguments with
  | ['-', 'n'] :: size :: command => inGroups size command
  | ('-' :: 'n' :: size) :: command => inGroups size command
  | ['-', 'I'] :: mark :: command => forLines mark command
  | ('-' :: 'I' :: mark) :: command => forLines mark command
  | ['-', 'r'] :: command => if words.isEmpty then [] else once command
  | command => once command

/-- `printenv`: the variables that processes inherit. -/
def printenv : Tool := fun arguments => do
  let inherited ← environment
  if arguments.isEmpty then
    out (Octets.ofLines (inherited.map fun (name, value) => name ++ '=' :: value))
    return 0
  else
    let found := arguments.map fun name => inherited.lookup name
    out (Octets.ofLines (found.filterMap id))
    return if found.all Option.isSome then 0 else 1

/-- `id`: the user, who is the superuser. -/
def id_ : Tool := withArguments "id" "ugnrG" [("user", 'u'), ("group", 'g'), ("name", 'n')] 1
    fun a => do
  match a.operands.find? (· ≠ "root".toList) with
  | some user =>
    complainAs "id" (quote user ++ ": no such user".toList)
    return 1
  | none =>
  if a.has 'u' || a.has 'g' || a.has 'G' then print (if a.has 'n' then "root\n" else "0\n")
  else print "uid=0(root) gid=0(root) groups=0(root)\n"
  return 0

/-- `uname`: the name of the system. -/
def uname : Tool := withAtMost 0 "uname" "asnrmpio" [] 1 fun a => do
  if a.has 'm' || a.has 'p' || a.has 'i' then print "x86_64\n"
  else if a.has 'o' then print "GNU/Linux\n"
  else print "Linux\n"
  return 0

end TestRig.Shell.Tool
