/-
  TestRig.Shell.Tool.Basic

  What the tools of a shell have in common: the reading of switches and operands, the
  opening of their inputs, and the form of their complaints.
-/
import TestRig.Shell.Tool.Quoted

namespace TestRig.Shell

/-- A tool: from its arguments, without its own name, to a change with an exit status. -/
abbrev Tool := List Octets → Run Nat

namespace Tool

open Run

/-! ## Complaints -/

/-- A complaint of a tool. -/
def complainAs (name : String) (message : Octets) : Run Unit :=
  complain ((name ++ ": ").toList ++ message)

/-- A complaint of a tool about a path. -/
def complainAbout (name : String) (path : Octets) (e : IoError) : Run Unit :=
  complainAs name (showPath path ++ ": ".toList ++ reason e)

/-- A complaint about a path, with what could not be done to it in front. -/
def cannot (name what : String) (path : Octets) (e : IoError) : Run Unit :=
  complainAs name ((what ++ " ").toList ++ quotePath path ++ ": ".toList ++ reason e)

/-- Does something for each operand; the status is 1 if that failed for any. -/
def forEach (operands : List Octets) (body : Octets → Run Bool) : Run Nat := do
  let done ← operands.mapM body
  return if done.all id then 0 else 1

/-- A complaint about the use of a tool. -/
def misused (name : String) (message : Octets) (status : Nat) : Run Nat := do
  complainAs name message
  complain ("Try '".toList ++ name.toList ++ " --help' for more information.".toList)
  return status

/-! ## Arguments -/

/-- Arguments taken apart: the switches, those that have a value with it, and the operands. -/
structure Arguments where
  switches : List (Char × Octets) := []
  operands : List Octets := []

namespace Arguments

/-- Is the switch given? -/
def has (a : Arguments) (c : Char) : Bool := a.switches.any (·.1 = c)

/-- The value of a switch, the last one if it is given more than once. -/
def value? (a : Arguments) (c : Char) : Option Octets :=
  (a.switches.reverse.find? (·.1 = c)).map (·.2)

/-- The switches of a cluster such as `-abc`.  The result says whether the next argument is the
value of the last one. -/
def cluster (spec : String) : Octets → Except Octets (List (Char × Octets) × Option Char)
  | [] => .ok ([], none)
  | c :: rest =>
    match (spec.toList.dropWhile (· ≠ c)) with
    | [] => .error ("invalid option -- '".toList ++ [c, '\''])
    | _ :: ':' :: _ =>
      if rest.isEmpty then .ok ([], some c) else .ok ([(c, rest)], none)
    | _ => do
      let (more, open_) ← cluster spec rest
      .ok ((c, []) :: more, open_)

/-- Takes arguments apart.  `spec` lists the switches, with a colon behind each one that has a
value; `long` gives the long spellings of some of them. -/
def parse (spec : String) (long : List (String × Char)) :
    List Octets → Except Octets Arguments
  | [] => .ok {}
  | argument :: rest =>
    match argument with
    | ['-', '-'] => .ok { operands := rest }
    | '-' :: '-' :: name => do
      let word := name.takeWhile (· ≠ '=')
      match long.lookup (String.ofList word) with
      | some c =>
        let needsValue := (spec.toList.dropWhile (· ≠ c)).tail.head? = some ':'
        match needsValue && word = name, rest with
        | false, rest =>
          let a ← parse spec long rest
          .ok { a with switches := (c, name.drop (word.length + 1)) :: a.switches }
        | true, value :: rest =>
          let a ← parse spec long rest
          .ok { a with switches := (c, value) :: a.switches }
        | true, [] => .error ("option '".toList ++ argument ++ "' requires an argument".toList)
      | none => .error ("unrecognized option '".toList ++ argument ++ ['\''])
    | '-' :: c :: more => do
      let (found, open_) ← cluster spec (c :: more)
      match open_, rest with
      | none, rest =>
        let a ← parse spec long rest
        .ok { a with switches := found ++ a.switches }
      | some c, value :: rest =>
        let a ← parse spec long rest
        .ok { a with switches := found ++ (c, value) :: a.switches }
      | some c, [] => .error ("option requires an argument -- '".toList ++ [c, '\''])
    | operand => do
      let a ← parse spec long rest
      .ok { a with operands := operand :: a.operands }

end Arguments

/-- A tool that takes its arguments apart first; misuse gives `status`. -/
def withArguments (name spec : String) (long : List (String × Char)) (status : Nat)
    (body : Arguments → Run Nat) : Tool := fun arguments =>
  match Arguments.parse spec long arguments with
  | .ok a => body a
  | .error message => misused name message status

/-- A tool that takes at most a number of operands. -/
def withAtMost (count : Nat) (name spec : String) (long : List (String × Char)) (status : Nat)
    (body : Arguments → Run Nat) : Tool :=
  withArguments name spec long status fun a =>
    match a.operands[count]? with
    | some extra => misused name ("extra operand ".toList ++ quote extra) status
    | none => body a

/-- The number of decimal digits. -/
def number? (text : Octets) : Option Nat :=
  if text.isEmpty || !text.all Char.isDigit then none else some (Nat.ofDigitChars 10 text 0)

/-- A number with a suffix for its unit. -/
def size? (text : Octets) : Option Nat := do
  let ds := text.takeWhile Char.isDigit
  let n ← number? ds
  let unit ← match String.ofList (text.drop ds.length) with
    | "" | "c" => some 1
    | "w" => some 2
    | "b" => some 512
    | "kB" => some 1000
    | "k" | "K" | "KiB" => some 1024
    | "MB" => some 1000000
    | "M" | "m" | "MiB" => some 0x100000
    | "GB" => some 1000000000
    | "G" | "GiB" => some 0x40000000
    | "TB" => some 1000000000000
    | "T" | "TiB" => some 0x10000000000
    | _ => none
  return n * unit

/-! ## Inputs -/

/-- Opens a file for reading as a stream of its own, reads by `body` and closes it. -/
def withFile {α : Type} (path : Octets) (body : Nat → Run α) : Run (Except IoError α) := do
  match ← nodeAt path .follow with
  | .error e => return .error e
  | .ok (_, .directory _) => return .error .isDirectory
  | .ok (loc, _) =>
    let stream := 100
    let n ← openChannel (← channelAt loc false)
    setStream stream n
    let result ← body stream
    closeStream stream
    closeChannel n
    return .ok result

/-- Reads an operand by `body`: a file, or the input for `-`. -/
def withOperand {α : Type} (operand : Octets) (body : Nat → Run α) : Run (Except IoError α) := do
  if operand = ['-'] then return .ok (← body 0)
  else withFile operand body

/-- The content of the operands, or of the input when there are none; those that cannot be read
are complained about and make the status 1. -/
def inputs (complaint : Octets → IoError → Run Unit) (operands : List Octets) :
    Run (List (Octets × Octets) × Nat) := do
  let operands := if operands.isEmpty then [['-']] else operands
  let found ← operands.mapM fun operand => do
    match ← withOperand operand readAll with
    | .ok text => return some (operand, text)
    | .error e =>
      complaint operand e
      return none
  return (found.filterMap id, if found.all Option.isSome then 0 else 1)

/-- The content of the operands one after the other. -/
def input (complaint : Octets → IoError → Run Unit) (operands : List Octets) :
    Run (Octets × Nat) := do
  let (found, status) ← inputs complaint operands
  return (found.flatMap (·.2), status)

end Tool

end TestRig.Shell
