/-
  TestRig.Command.Target

  Where a command runs: on this machine, or on another host that is reached with a
  credential.
-/
import TestRig.Command.Capture
import TestRig.Text.Quoted

namespace TestRig.Command

/-- How a host is told who is coming. -/
inductive Credential where
  | password (secret : String)
  /-- A private key in a file that only its owner may read. -/
  | keyFile (path : String)
  /-- A private key in base64, in an environment variable. -/
  | envKey (name : String)
  deriving DecidableEq

/-- The shown form of a credential, which never holds a password. -/
def Credential.render : Credential → String
  | password _ => "Password(<redacted>)"
  | keyFile path => "KeyFile(" ++ Text.Quoted.quote path ++ ")"
  | envKey name => "EnvKey(" ++ Text.Quoted.quote name ++ ")"

/-- How the key that a host shows is checked. -/
inductive HostKeyPolicy where
  /-- Against a file of known hosts, the user's own when none is given. -/
  | knownHosts (path : Option String)
  /-- Not at all, which only fits machines that are thrown away. -/
  | acceptAny
  deriving DecidableEq

/-- The policy that follows from the wish to accept unknown keys and from a file of known hosts. -/
def HostKeyPolicy.ofOptIn (acceptUnknown : Bool) (knownHosts : Option String) : HostKeyPolicy :=
  if acceptUnknown then .acceptAny else .knownHosts knownHosts

/-- Everything needed to run a command on another host. -/
structure RemoteTarget where
  host : String
  port : UInt16 := 22
  user : String
  credential : Credential
  /-- The limit on connecting, the proof of identity included. -/
  connectTimeout : Duration := Duration.ofSecs 30
  readMode : ReadMode := .raw none
  hostKeyPolicy : HostKeyPolicy := .knownHosts none
  deriving DecidableEq

/-- Where a command runs. -/
inductive Target where
  /-- On this machine. -/
  | here
  /-- On another host. -/
  | remote (target : RemoteTarget)
  deriving DecidableEq

namespace Target

/-- The target that a wish to run remotely selects.  Without that wish the details of a host count
for nothing; with it they must be there. -/
def select (remotely : Bool) (details : Option RemoteTarget) : Except Error Target :=
  if remotely then
    match details with
    | some details => .ok (.remote details)
    | none => .error (.badCredential "remote execution requested without host details")
  else .ok .here

/-- Is the target another host? -/
def isRemote : Target → Bool
  | here => false
  | remote _ => true

/-- A short name of the way by which commands get there. -/
def label : Target → String
  | here => "local"
  | remote _ => "ssh"

end Target

end TestRig.Command
