/-
  TestRig.Machine.Remote

  Running command lines on other hosts, up to the connection: the command must not be
  empty, and the credential must be usable.  The machine is cut off from the network,
  so every connection is refused.
-/
import TestRig.Command.PrivateKey
import TestRig.Command.Target
import TestRig.Machine.Local

namespace TestRig.Machine

open Command (Credential RemoteTarget Target)

/-- A key text as an answer about the credential that holds it. -/
def checkKey (text : String) : Except String Unit :=
  (Command.PrivateKey.check text).mapError fun fault => "invalid private key: " ++ fault.message

/-- May only the owner of a file use it? -/
def isPrivate : Node → Bool
  | .file mode _ | .directory mode => mode &&& 0o077 = 0
  | .link _ | .device _ => false

/-- Loads a credential, or tells why it cannot be used. -/
def loadCredential (m : Machine) : Credential → Except String Unit
  | .password _ => .ok ()
  | .keyFile path => do
    let io := fun {α : Type} (what : String) (result : Except IoError α) =>
      result.mapError fun e => what ++ e.message
    let (_, node) ← io "I/O error: " (m.files.find (Text.encode path) .follow)
    if !isPrivate node then
      throw ("key file permissions too open: " ++ path ++ " (should be 600)")
    let content ← io "invalid private key: " (m.files.read (Text.encode path))
    match Text.decode? content with
    | some text => checkKey text
    | none => throw "invalid private key: stream did not contain valid UTF-8"
  | .envKey name =>
    match m.setting? name with
    | none => throw ("environment variable " ++ name ++ " not set")
    | some value =>
      match Command.PrivateKey.decodeCarried? value with
      | some text => checkKey text
      | none => throw "invalid base64 encoding"

/-- The nanoseconds that it takes to be refused. -/
def refusalTime : Nat := 50000

/-- Runs a command line on another host. -/
def runThere (m : Machine) (command : String) (target : RemoteTarget) (limit : Option Duration) :
    Command.Reply :=
  if Text.isBlankText command then .error .emptyCommand
  else
    match m.loadCredential target.credential with
    | .error reason => .error (.badCredential reason)
    | .ok () =>
      let tooShort := fun (d : Duration) => d.toNanos < refusalTime
      match limit with
      | some d => if tooShort d then .error (.timedOut d) else connect tooShort
      | none => connect tooShort
where
  connect (tooShort : Duration → Bool) : Command.Reply :=
    if tooShort target.connectTimeout then .error (.timedOut target.connectTimeout)
    else .error (.connectionFailed IoError.connectionRefused.message)

/-- Runs a command line where a target says. -/
def run (m : Machine) (target : Target) (command : String) (limit : Option Duration) :
    Command.Reply × Machine :=
  match target with
  | .here => m.runHere command limit
  | .remote details => (m.runThere command details limit, m)

/-- Holds a dialogue: its commands run where a target says. -/
def hold {α : Type} (m : Machine) (target : Target) (d : Command.Dialogue α) : α × Machine :=
  d.hold (fun m command => m.run target command none) m

end TestRig.Machine
