/-
  TestRig.Command.Error

  Why a command gave no output, with the wording of each cause and the coarse kind
  under which callers file it.
-/
import TestRig.Duration

namespace TestRig

/-- The coarse kinds of failure, shared by commands, files and packages. -/
inductive ErrorKind where
  /-- A command ran, or was to run, and failed. -/
  | execution
  /-- A file, directory, package or executable is not there. -/
  | notFound
  /-- What was to be created is already there. -/
  | alreadyExists
  /-- Access was refused. -/
  | permissionDenied
  /-- A deadline passed. -/
  | timeout
  /-- The network or the session failed. -/
  | connection
  /-- The caller passed something unusable. -/
  | invalidInput
  deriving DecidableEq, Repr

namespace Command

/-- Why a command gave no output. -/
inductive Error where
  /-- There was nothing to run. -/
  | emptyCommand
  /-- The shell did not find the executable; `stderr` is what it wrote. -/
  | notFound (stderr : String)
  /-- The command failed; `message` is what it wrote about that. -/
  | failed (status : Int32) (message : String)
  /-- The host could not be reached. -/
  | connectionFailed (reason : String)
  /-- The host refused the credential. -/
  | authenticationFailed (reason : String)
  /-- The key that the host showed could not be verified. -/
  | hostKeyRejected (host : String)
  /-- The command or the connection took longer than allowed. -/
  | timedOut (limit : Duration)
  /-- The credential could not be loaded. -/
  | badCredential (reason : String)
  /-- The shell could not be started. -/
  | spawnFailed (reason : String)
  /-- Reading or writing failed while the command ran. -/
  | ioFailed (reason : String)
  deriving DecidableEq

namespace Error

/-- The wording of the error. -/
def message : Error → String
  | emptyCommand => "missing required parameter: command is empty"
  | notFound stderr => "command not found: " ++ stderr
  | failed status text => "command execution failed: " ++ toString status.toInt ++ " - " ++ text
  | connectionFailed reason => "connection failed: " ++ reason
  | authenticationFailed reason => "authentication failed: " ++ reason
  | hostKeyRejected host => "host key rejected for " ++ host
  | timedOut limit => "timed out after " ++ limit.render
  | badCredential reason => "credential error: " ++ reason
  | spawnFailed reason => "failed to spawn process: " ++ reason
  | ioFailed reason => "I/O error: " ++ reason

/-- The kind of the error. -/
def kind : Error → ErrorKind
  | emptyCommand | badCredential _ => .invalidInput
  | notFound _ => .notFound
  | failed .. | spawnFailed _ | ioFailed _ => .execution
  | connectionFailed _ => .connection
  | authenticationFailed _ | hostKeyRejected _ => .permissionDenied
  | timedOut _ => .timeout

/-- May the same command succeed when it is simply run again? -/
def isRetryable : Error → Bool
  | connectionFailed _ | timedOut _ => true
  | _ => false

/-- What the failing command wrote, if it came to run. -/
def captured? : Error → Option String
  | notFound stderr => some stderr
  | failed _ text => some text
  | _ => none

/-- Did the command run and report failure itself?  The other errors are failures of the means by
which it was to run. -/
def isCommandFailure : Error → Bool
  | notFound _ | failed .. => true
  | _ => false

end Error

end Command

end TestRig
