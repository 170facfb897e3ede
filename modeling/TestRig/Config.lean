/-
  TestRig.Config

  The configuration: what is logged, how other hosts are reached, and the command
  lines of the tools.  A configuration file is laid over the defaults, field by
  field; keys that mean nothing here are passed over.
-/
import TestRig.Command.Codecs
import TestRig.FileSystem.Access
import TestRig.Toml.Parser

namespace TestRig

/-- What is logged, and in which form. -/
structure LogConfig where
  level : String := "info"
  json : Bool := false
  deriving DecidableEq, Inhabited

/-- How other hosts are reached unless a command says otherwise. -/
structure RemoteConfig where
  port : UInt16 := 22
  connectTimeoutSecs : UInt64 := 30
  acceptUnknownHostKeys : Bool := false
  knownHosts : Option String := none
  deriving DecidableEq, Inhabited

/-- The whole configuration. -/
structure Config where
  log : LogConfig := {}
  remote : RemoteConfig := {}
  commands : Templates := {}
  deriving DecidableEq, Inhabited

namespace Config

/-! ## Fields -/

/-- A field of a type: its value if the key is there, which must then fit, else its default. -/
def field? {α : Type} (read : Toml.Value → Option α) (default : α) :
    Option Toml.Value → Option α
  | some value => read value
  | none => some default

def string? : Toml.Value → Option String
  | .string s => some s
  | _ => none

def boolean? : Toml.Value → Option Bool
  | .boolean b => some b
  | _ => none

/-- A natural number below a bound. -/
def below? (bound : Nat) : Toml.Value → Option Nat
  | .integer n => if 0 ≤ n ∧ n < bound then some n.toNat else none
  | _ => none

/-- The fields of a section in the order of their names.  A section is a table, or an array of its
fields in that order. -/
def sectionFields? (names : List String) : Toml.Value → Option (List (Option Toml.Value))
  | .table entries => some (names.map fun name => entries.lookup name)
  | .array items => some (List.ofFn fun i : Fin names.length => items[i.val]?)
  | _ => none

/-! ## Sections -/

/-- The section on logging. -/
def log? (section_ : Toml.Value) : Option LogConfig :=
  match sectionFields? ["level", "json"] section_ with
  | some [level, json] => do
    some ⟨← field? string? "info" level, ← field? boolean? false json⟩
  | _ => none

/-- The section on other hosts. -/
def remote? (section_ : Toml.Value) : Option RemoteConfig :=
  let names := ["port", "connect_timeout_secs", "accept_unknown_host_keys", "known_hosts"]
  match sectionFields? names section_ with
  | some [port, timeout, accept, knownHosts] => do
    let port ← field? (below? UInt16.size) 22 port
    let timeout ← field? (below? UInt64.size) 30 timeout
    let accept ← field? boolean? false accept
    let knownHosts ← field? (fun v => (string? v).map some) none knownHosts
    some ⟨UInt16.ofNat port, UInt64.ofNat timeout, accept, knownHosts⟩
  | _ => none

/-- The section on command lines. -/
def commands? (section_ : Toml.Value) : Option Templates := do
  let fields ← sectionFields? Templates.fieldNames section_
  let defaults := ({} : Templates).toList
  let values ← (defaults.zip fields).mapM fun (default, field) => field? string? default field
  Templates.ofList? values

/-- The configuration that a document lays over the defaults. -/
def ofTable? (document : Toml.Table) : Option Config := do
  let log ← field? log? {} (document.lookup "log")
  let remote ← field? remote? {} (document.lookup "remote")
  let commands ← field? commands? {} (document.lookup "commands")
  some ⟨log, remote, commands⟩

/-! ## Files -/

/-- Why a configuration file cannot be used. -/
inductive LoadError where
  /-- The file cannot be read. -/
  | unreadable (reason : String)
  /-- Its content is no configuration. -/
  | malformed
  deriving DecidableEq

/-- The configuration of a file. -/
def load (fs : FileSystem) (path : String) : Except LoadError Config :=
  match fs.read (Text.encode path) with
  | .error refusal => .error (.unreadable refusal.message)
  | .ok content =>
    match Text.decode? content with
    | none => .error (.unreadable "stream did not contain valid UTF-8")
    | some text =>
      match (Toml.parse? text).bind ofTable? with
      | some config => .ok config
      | none => .error .malformed

end Config

end TestRig
