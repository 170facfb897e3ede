/-
  TestRig.CommandLine.Request

  What a user can ask for on the command line.
-/
import TestRig.Command.Target
import TestRig.Config
import TestRig.Files.Backup
import TestRig.Files.Checksum
import TestRig.Files.Generation
import TestRig.Files.Split
import TestRig.Digest.Basic

namespace TestRig.CommandLine

/-- The options that lead to another host. -/
structure RemoteOptions where
  host : Option String := none
  user : Option String := none
  password : Option String := none
  key : Option String := none
  port : Option UInt16 := none
  lines : Bool := false
  maxBytes : Option UInt64 := none
  acceptUnknownHostKeys : Bool := false

/-- The target that options and the configuration describe. -/
def RemoteOptions.target (o : RemoteOptions) (defaults : RemoteConfig) :
    Except String Command.Target :=
  match o.host with
  | none => .ok .here
  | some host =>
    match o.user with
    | none => .error "--user is required with --host"
    | some user =>
      let credential : Option Command.Credential :=
        (o.key.map .keyFile).or (o.password.map .password)
      match credential with
      | none => .error "--password (or TESTBED_SSH_PASSWORD) or --key is required"
      | some credential =>
        .ok (.remote {
          host, user, credential
          port := o.port.getD defaults.port
          connectTimeout := Duration.ofSecs defaults.connectTimeoutSecs
          readMode := if o.lines then .lines else .raw o.maxBytes
          hostKeyPolicy := .ofOptIn (o.acceptUnknownHostKeys || defaults.acceptUnknownHostKeys)
            defaults.knownHosts })

/-- A question about packages. -/
inductive PackageQuestion where
  | check (name : String)
  | list (filter : String)
  | install (package : String)
  | machineState (filter dir : String)

/-- What is asked for. -/
inductive Request where
  | run (command : String) (remote : RemoteOptions)
  | checksum (path : String) (algorithm : Digest.Algorithm) (format : Files.ChecksumFormat)
      (options : String)
  | digest (path : String) (algorithm : Digest.Algorithm)
  | diskUsage (path : String)
  | createFile (path : String) (count : UInt64) (source : Files.BlockSource)
  | createFiles (dir : String) (range : Files.SizeRange) (count : UInt64) (stem : String)
  | split (path : String) (sizeMb parts : UInt64) (sizing : Files.PartSizing)
  | cleanup (dir : String)
  | backup (action : Files.BackupAction) (dir : String) (files : List String)
  | ping (host : String)
  | processes (process : String)
  | utility (name dir : String)
  | packages (question : PackageQuestion) (remote : RemoteOptions)

/-- A request, and the configuration file that is named for it. -/
structure Invocation where
  config : Option String
  request : Request

end TestRig.CommandLine
