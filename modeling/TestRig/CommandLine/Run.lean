/-
  TestRig.CommandLine.Run

  Carrying out requests on a machine: what is written, and how the program ends.
-/
import TestRig.CommandLine.Reading
import TestRig.Files.Cleanup
import TestRig.Files.Codecs
import TestRig.Files.Volume
import TestRig.Host.Probe
import TestRig.Machine.Remote
import TestRig.Machine.Work
import TestRig.Package.Codecs

namespace TestRig.CommandLine

/-- How the program ends. -/
structure Outcome where
  exitCode : Nat
  output : String := ""
  /-- What went wrong. -/
  failure : Option String := none

/-- The name and the version of the program. -/
def versionLine : String := "testbed 0.1.0\n"

/-- How the program is used. -/
def usage : String :=
  "Command execution and file utilities for storage test rigs\n\n" ++
  "Usage: testbed [OPTIONS] <COMMAND>\n\nCommands:\n" ++
  String.join (root.commands.map fun name => "  " ++ name ++ "\n") ++ "  help\n"

/-- The outcome of arguments that make no request. -/
def Refusal.outcome : Refusal → Outcome
  | misuse => ⟨2, "", none⟩
  | version => ⟨0, versionLine, none⟩
  | help => ⟨0, usage, none⟩

/-! ## Configuration -/

/-- The paths at which a configuration is looked for. -/
def usualPaths (m : Machine) : List String :=
  let own := match m.setting? "XDG_CONFIG_HOME" with
    | some dir => if Path.isAbsolute dir.toList then some dir else none
    | none => none
  -- a relative directory does not count
  let own := own.or ((m.setting? "HOME").map fun home => Path.join home ".config")
  ["testbed.toml", "/etc/testbed/testbed.toml"] ++
    (own.map fun dir => Path.join dir "testbed/testbed.toml").toList

/-- The wording of a configuration that cannot be used. -/
def loadMessage : Config.LoadError → String
  | .unreadable reason => reason
  | .malformed => "TOML parse error"

/-- The configuration: of a file that is named, of the file that the environment names, of the first
usual file that is there, or the defaults. -/
def configuration (m : Machine) (given : Option String) : Except String Config :=
  match given with
  | some path => (Config.load m.files path).mapError fun _ => "loading config from " ++ path
  | none =>
    match (m.setting? "TESTBED_CONFIG").or
        ((usualPaths m).find? fun path => m.files.pathExists (Text.encode path)) with
    | some path => (Config.load m.files path).mapError loadMessage
    | none => .ok {}

/-! ## Requests -/

/-- What a request writes, or what went wrong. -/
abbrev Answer := Except String String × Machine

/-- A line. -/
def line (text : String) : String := text ++ "\n"

/-- A value as JSON. -/
def jsonText {α : Type} [Json.Codec α] (value : α) : String := line (Json.toJson value).pretty

/-- The answer that a result amounts to. -/
def answer {ε α : Type} (message : ε → String) (show_ : α → String)
    (result : Except ε α × Machine) : Answer :=
  (match result.1 with
    | .ok a => .ok (show_ a)
    | .error e => .error (message e), result.2)

/-- A listing as lines; one that is empty is a failure. -/
def listingText (filter : String) (listing : Package.Listing) : Except String String :=
  if listing.found then .ok (String.join (listing.names.map line))
  else .error ("no packages match " ++ Text.Quoted.quote filter)

/-- Answers a question about packages. -/
def answerPackages (m : Machine) (t : Templates) (target : Command.Target) :
    PackageQuestion → Answer
  | .check name =>
    answer Package.Error.message jsonText (m.hold target (Package.isInstalled t name))
  | .list filter =>
    match m.hold target (Package.list t filter) with
    | (.ok listing, m) => (listingText filter listing, m)
    | (.error e, m) => (.error e.message, m)
  | .install package =>
    answer Package.Error.message (fun output => line (Text.trimEnd output.toText))
      (m.hold target (Package.install t package))
  | .machineState filter dir =>
    answer Package.Error.message jsonText (m.hold target (Package.machineState t filter dir))

/-- Carries out a request.  `seed` begins the random numbers. -/
def perform (m : Machine) (config : Config) (seed : UInt64) : Request → Answer
  | .run command remote =>
    match remote.target config.remote with
    | .error message => (.error message, m)
    | .ok target =>
      answer Command.Error.message (fun output => line (Text.trimEnd output.toText))
        (m.run target command none)
  | .checksum path algorithm format options =>
    answer FileError.message line (m.checksum config.commands path algorithm format options)
  | .digest path algorithm =>
    answer FileError.message (fun d => line (d.toHex ++ "  " ++ path) ++ line d.toBase64)
      (Files.digest m.files path algorithm, m)
  | .diskUsage path => answer FileError.message line (Files.diskUsage m.files path, m)
  | .createFile path count source =>
    answer FileError.message (fun size => line (path ++ " " ++ toString size))
      (m.createFile config.commands path count.toNat source)
  | .createFiles dir range count stem =>
    answer FileError.message jsonText
      (m.createMany config.commands range count.toNat dir stem (Random.Generator.ofSeed seed))
  | .split path sizeMb parts sizing =>
    answer FileError.message jsonText
      (m.splitFresh config.commands path sizeMb.toNat parts.toNat sizing)
  | .cleanup dir =>
    answer FileError.message (fun n => line ("removed " ++ toString n ++ " entries from " ++ dir))
      (m.withFiles (Files.cleanup m.files dir))
  | .backup action dir files =>
    answer FileError.message jsonText (m.withFiles (action.run m.files dir files))
  | .ping host =>
    match m.ping config.commands host with
    | (.ok true, m) => (.ok (line (host ++ " is reachable")), m)
    | (.ok false, m) => (.error (host ++ " did not answer"), m)
    | (.error e, m) => (.error e.message, m)
  | .processes process =>
    answer Package.Error.message Text.decodeLossy
      (m.hold .here (Host.processes config.commands process))
  | .utility name dir =>
    match m.hold .here (Host.isUtilityPresent config.commands name dir) with
    | (.ok true, m) => (.ok (line (name ++ " found in " ++ dir)), m)
    | (.ok false, m) => (.error (name ++ " not found in " ++ dir), m)
    | (.error e, m) => (.error e.message, m)
  | .packages question remote =>
    match remote.target config.remote with
    | .error message => (.error message, m)
    | .ok target => answerPackages m config.commands target question

/-- Runs the program with its arguments. -/
def run (m : Machine) (seed : UInt64) (arguments : List String) : Outcome × Machine :=
  match Invocation.read (m.setting? "TESTBED_SSH_PASSWORD") arguments with
  | .error refusal => (refusal.outcome, m)
  | .ok invocation =>
    match configuration m invocation.config with
    | .error message => (⟨1, "", some message⟩, m)
    | .ok config =>
      match perform m config seed invocation.request with
      | (.ok output, m) => (⟨0, output, none⟩, m)
      | (.error message, m) => (⟨1, "", some message⟩, m)

end TestRig.CommandLine
