/-
  TestRig.Machine.Local

  Running command lines in the shell of the machine itself, with nothing to read.
-/
import TestRig.Command.Dialogue
import TestRig.Machine.Basic
import TestRig.Shell.Eval
import TestRig.Text.Blank

namespace TestRig.Machine

open Shell (Octets)

/-- The shell that is started on a machine, with a limit on its time in nanoseconds. -/
def shellState (m : Machine) (limit : Option Nat) : Shell.State :=
  let exported := m.environment.map fun (name, value) =>
    ({ name := Octets.ofString name, value? := some (Octets.ofString value), exported := true } :
      Shell.Variable)
  { files := m.files
    known := exported
    channels := [(0, .nothing), (1, .sink []), (2, .sink [])]
    streams := [(0, 0), (1, 1), (2, 2)]
    limit }

/-- What a shell has written to a channel. -/
def written (s : Shell.State) (channel : Nat) : Bytes :=
  ((s.channels.lookup channel).map fun c => Octets.toBytes c.written).getD []

/-- Runs a command line to its end, and records what is known of it then.  When it takes longer than
allowed, there is nothing to record. -/
def runShell (m : Machine) (command : String) (limit : Option Nat) :
    Option Command.Capture × Machine :=
  let start := do
    Shell.Run.spend Shell.Run.startTime
    Shell.Run.whole (Octets.ofString command)
  let (result, s) := (start.run (m.shellState limit)).run
  let files := { s.files with current := m.files.current, umask := m.files.umask }
  let after := { m with files }
  let finished := fun (status : Int32) =>
    some { status, stdout := written s 1, stderr := written s 2 : Command.Capture }
  match result with
  | .ok status => (finished (Int32.ofNat (status % 256)), after)
  | .error (.killed _) => (finished (-1), after)
  | .error .timedOut => (none, after)
  | .error .exhausted => (none, after)
  | .error _ => (finished 2, after)

/-- Runs a command line and records what is known of it at its end.  Its time is bounded on
demand. -/
def capture (m : Machine) (command : String) (limit : Option Duration) :
    Except Command.Error Command.Capture × Machine :=
  if Text.isBlankText command then (.error .emptyCommand, m)
  else if command.toList.contains (Char.ofNat 0) then
    (.error (.spawnFailed "nul byte found in provided data"), m)
  else
    match m.runShell command (limit.map Duration.toNanos) with
    | (some c, m) => (.ok c, m)
    | (none, m) => (.error (.timedOut (limit.getD Duration.zero)), m)

/-- Runs a command line and judges it. -/
def runHere (m : Machine) (command : String) (limit : Option Duration) :
    Command.Reply × Machine :=
  let (result, m) := m.capture command limit
  (result.bind Command.Capture.judgeLocal, m)

end TestRig.Machine
