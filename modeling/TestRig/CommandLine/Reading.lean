/-
  TestRig.CommandLine.Reading

  Reading requests from the arguments of the program.
-/
import TestRig.CommandLine.Grammar
import TestRig.CommandLine.Request

namespace TestRig.CommandLine

/-! ## Values -/

/-- A natural number below a bound, in decimal digits behind an optional sign. -/
def natural? (bound : Nat) (text : String) : Option Nat :=
  let ds := match text.toList with
    | '+' :: ds => ds
    | ds => ds
  if ds.isEmpty || !ds.all Char.isDigit then none
  else
    let n := Nat.ofDigitChars 10 ds 0
    if n < bound then some n else none

/-- A count of sixty-four bits. -/
def count? (text : String) : Option UInt64 := (natural? UInt64.size text).map UInt64.ofNat

/-- A port; a zero may have any sign. -/
def port? (text : String) : Option UInt16 :=
  match text.toList with
  | '-' :: zeros => if !zeros.isEmpty && zeros.all (· = '0') then some 0 else none
  | _ => (natural? UInt16.size text).map UInt16.ofNat

/-! The tests of values: a path must not be empty, and a number or a name must be readable. -/

def anyText : String → Bool := fun _ => true
def isPath : String → Bool := fun text => !text.isEmpty
def isCount : String → Bool := fun text => (count? text).isSome
def isPort : String → Bool := fun text => (port? text).isSome
def isAlgorithm : String → Bool := fun text => (Digest.Algorithm.ofName? text).isSome

/-! ## The commands and their options -/

/-- The file of the configuration. -/
def configOption : OptionSpec := { long := "config", value := some isPath }

/-- The algorithm of a checksum. -/
def algorithmOption : OptionSpec := { long := "algorithm", value := some isAlgorithm }

/-- The options that lead to another host. -/
def remoteOptions : List OptionSpec :=
  [{ long := "host", value := some anyText },
   { long := "user", short := some 'u', value := some anyText },
   { long := "password", value := some anyText }, { long := "key", value := some isPath },
   { long := "port", value := some isPort }, { long := "lines" },
   { long := "max-bytes", value := some isCount }, { long := "accept-unknown-host-keys" }]

/-- The commands of the program. -/
def commands : List (String × Level) :=
  [("run", { options := remoteOptions, operands := [anyText] }),
   ("checksum", {
      options := [algorithmOption, { long := "hex" },
        { long := "options", value := some anyText, anyValue := true }]
      operands := [isPath] }),
   ("digest", { options := [algorithmOption], operands := [isPath] }),
   ("disk-usage", { operands := [isPath] }),
   ("create-file", {
      options := [{ long := "count", value := some isCount },
        { long := "device", value := some isPath }, { long := "block-size", value := some anyText }]
      operands := [isPath] }),
   ("create-files", {
      options := [{ long := "min-mb", value := some isCount },
        { long := "max-mb", value := some isCount }, { long := "count", value := some isCount },
        { long := "prefix", value := some anyText }]
      operands := [isPath] }),
   ("split", {
      options := [{ long := "size-mb", value := some isCount },
        { long := "parts", value := some isCount }, { long := "random" }]
      operands := [isPath] }),
   ("cleanup", { operands := [isPath] }),
   ("backup", {
      options := [{ long := "dir", value := some isPath }, { long := "restore" }]
      further := some isPath }),
   ("ping", { operands := [anyText] }),
   ("pgrep", { operands := [anyText] }),
   ("utility", { operands := [anyText, anyText] }),
   ("rpm", { options := remoteOptions, commands := ["check", "list", "install", "machine-state"] })]

/-- The questions about packages. -/
def packageCommands : List (String × Level) :=
  [("check", { operands := [anyText] }), ("list", { operands := [anyText] }),
   ("install", { operands := [anyText] }),
   ("machine-state", {
      options := [{ long := "filter", value := some anyText },
        { long := "dir", value := some anyText }] })]

/-- The program itself. -/
def root : Level :=
  { options := [configOption], commands := commands.map (·.1), hasVersion := true }

/-! ## Requests -/

/-- What must be there. -/
def required {α : Type} (a : Option α) : Except Refusal α :=
  match a with
  | some a => .ok a
  | none => .error .misuse

/-- An operand that must be there. -/
def operand (b : Bindings) (i : Nat) : Except Refusal String := required b.operands[i]?

/-- The value of an option that must be there. -/
def count (b : Bindings) (long : String) : Except Refusal UInt64 :=
  required ((b.value? long).bind count?)

/-- The algorithm that is asked for, MD5 if none is. -/
def algorithm (b : Bindings) : Digest.Algorithm :=
  ((b.value? "algorithm").bind Digest.Algorithm.ofName?).getD .md5

/-- The way to another host; a password may also stand in the environment.  Lines and a limit on
bytes exclude each other. -/
def remote (b : Bindings) (password : Option String) : Except Refusal RemoteOptions :=
  if b.has "lines" && (b.value? "max-bytes").isSome then .error .misuse
  else .ok {
    host := b.value? "host"
    user := b.value? "user"
    password := (b.value? "password").or password
    key := b.value? "key"
    port := (b.value? "port").bind port?
    lines := b.has "lines"
    maxBytes := (b.value? "max-bytes").bind count?
    acceptUnknownHostKeys := b.has "accept-unknown-host-keys" }

/-- The explanation of a command, given by the names that lead to it, is asked for. -/
def explain (known : List String) : List String → Refusal
  | [] => .help
  | [name] => if name = "help" || known.contains name then .help else .misuse
  | name :: rest =>
    if name = "rpm" && known.contains name then
      explain (packageCommands.map (·.1)) rest
    else .misuse

/-- The arguments of a command; every command has the option for a configuration. -/
def bindings (levels : List (String × Level)) (name : String) (arguments : List String) :
    Except Refusal Bindings := do
  let level ← required (levels.lookup name)
  { level with options := configOption :: level.options }.parse {} arguments

/-- The question about packages that arguments ask. -/
def packageQuestion (b : Bindings) : Except Refusal (PackageQuestion × Option String) := do
  let (name, arguments) ← required b.command
  if name = "help" then throw (explain (packageCommands.map (·.1)) arguments)
  let inner ← bindings packageCommands name arguments
  let question ← match name with
    | "check" => .check <$> operand inner 0
    | "list" => pure (.list (inner.operands.head?.getD ""))
    | "install" => .install <$> operand inner 0
    | _ => pure (.machineState ((inner.value? "filter").getD "eos-prvsnr")
        ((inner.value? "dir").getD "/opt/seagate"))
  return (question, inner.value? "config")

/-- The request that the arguments of a command make. -/
def requestOf (name : String) (b : Bindings) (password : Option String) :
    Except Refusal Request := do
  match name with
  | "run" => return .run (← operand b 0) (← remote b password)
  | "checksum" =>
    return .checksum (← operand b 0) (algorithm b) (if b.has "hex" then .hex else .base64Binary)
      ((b.value? "options").getD "")
  | "digest" => return .digest (← operand b 0) (algorithm b)
  | "disk-usage" => return .diskUsage (← operand b 0)
  | "create-file" =>
    let usual : Files.BlockSource := {}
    return .createFile (← operand b 0) (← count b "count")
      ⟨(b.value? "device").getD usual.device, (b.value? "block-size").getD usual.blockSize⟩
  | "create-files" =>
    return .createFiles (← operand b 0) ⟨← count b "min-mb", ← count b "max-mb"⟩ (← count b "count")
      ((b.value? "prefix").getD "testfile")
  | "split" =>
    return .split (← operand b 0) (← count b "size-mb") (← count b "parts")
      (if b.has "random" then .random else .equal)
  | "cleanup" => return .cleanup (← operand b 0)
  | "backup" =>
    return .backup (if b.has "restore" then .restore else .backup) (← required (b.value? "dir"))
      b.operands
  | "ping" => return .ping (← operand b 0)
  | "pgrep" => return .processes (← operand b 0)
  | _ => return .utility (← operand b 0) (← operand b 1)

/-- Reads the arguments of the program.  `password` is the one of the environment. -/
def Invocation.read (password : Option String) (arguments : List String) :
    Except Refusal Invocation := do
  let top ← root.parse {} arguments
  let (name, arguments) ← required top.command
  -- the name of a command may follow
  if name = "help" then throw (explain root.commands arguments)
  let b ← bindings commands name arguments
  if name = "rpm" then
    let (question, config) ← packageQuestion b
    let remote ← remote b password
    -- the option counts where it is given last on the way down
    return ⟨config.or ((b.value? "config").or (top.value? "config")), .packages question remote⟩
  else
    let request ← requestOf name b password
    return ⟨(b.value? "config").or (top.value? "config"), request⟩

end TestRig.CommandLine
