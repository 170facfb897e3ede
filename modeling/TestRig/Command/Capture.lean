/-
  TestRig.Command.Capture

  What is known of a finished command before it is judged, and the two judgements.
  A local command is judged by its error stream alone: whatever its exit status, it
  failed if it wrote there, unless its output carries the confirmation that a key
  was installed.  A remote command is judged by its exit status and its error
  stream, in the form in which its output is read back.
-/
import TestRig.Command.Error
import TestRig.Command.Output

namespace TestRig.Command

/-- A finished command: exit status (-1 when a signal ended it), the two streams and the time that
it took. -/
structure Capture where
  status : Int32
  stdout : Bytes
  stderr : Bytes
  duration : Duration := Duration.zero
  deriving DecidableEq

/-- How the output of a remote command is read back. -/
inductive ReadMode where
  /-- As trimmed lines without the blank ones. -/
  | lines
  /-- As bytes, at most `limit` of them when there is a limit. -/
  | raw (limit : Option UInt64)
  deriving DecidableEq

namespace ReadMode

instance : Inhabited ReadMode := ⟨raw none⟩

end ReadMode

namespace Capture

/-- Did the command exit with status 0? -/
def succeeded (c : Capture) : Bool := c.status = 0

/-- The output stream as text. -/
def stdoutText (c : Capture) : String := Text.decodeLossy c.stdout

/-- The error stream as text. -/
def stderrText (c : Capture) : String := Text.decodeLossy c.stderr

/-! ## Local commands -/

/-- What is written on success by the tool that installs a key on a host; chatter in the error
stream beside it is no failure. -/
def keyAddedMarker : Bytes := Text.encode "Number of key(s) added: 1"

/-- What shells write when they do not find an executable. -/
def notFoundMarkers : List Bytes :=
  [Text.encode "command not found",
   Text.encode "not recognized as an internal or external command"]

/-- The judgement on a command that ran on this machine. -/
def judgeLocal (c : Capture) : Except Error Output :=
  if Text.occursIn keyAddedMarker c.stdout then .ok (.bytes c.stdout)
  else if notFoundMarkers.any (Text.occursIn · c.stderr) then .error (.notFound c.stderrText)
  else if c.stderr.isEmpty then .ok (.bytes c.stdout)
  else .error (.failed c.status c.stderrText)

/-! ## Remote commands -/

/-- The output as it is read back. -/
def readOutput (c : Capture) : ReadMode → Output
  | .lines => .lines (Text.splitLines c.stdoutText)
  | .raw none => .bytes c.stdout
  | .raw (some limit) => .bytes (c.stdout.take limit.toNat)

/-- The error text as it is read back. -/
def readErrorText (c : Capture) : ReadMode → String
  | .lines => Text.joinLines (Text.splitLines c.stderrText)
  | .raw _ => c.stderrText

/-- The judgement on a command that ran on another host: a status other than 0 is a failure, told
by the error text or, where that is empty, by the output; so is error text beside status 0. -/
def judgeRemote (c : Capture) (mode : ReadMode) : Except Error Output :=
  let output := c.readOutput mode
  let errorText := c.readErrorText mode
  if c.status ≠ 0 then
    .error (.failed c.status (if errorText.isEmpty then output.toText else errorText))
  else if errorText.isEmpty then .ok output
  else .error (.failed c.status errorText)

end Capture

end TestRig.Command
