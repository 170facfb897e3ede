/-
  TestRig.Host.Probe

  Questions about a host that is to be tested, as dialogues: is a tool there, and
  which processes run?
-/
import TestRig.Package.Query

namespace TestRig.Host

open Command (Dialogue)
open Package (Error entriesOf)

/-- Does a directory list an entry of exactly this name?  A directory that cannot be listed has no
entries. -/
def isUtilityPresent (t : Templates) (utility dir : String) : Dialogue (Except Error Bool) := do
  match ← entriesOf t dir with
  | .error e => return .error e
  | .ok entries => return .ok (entries.contains utility)

/-- What the search for a process writes. -/
def processes (t : Templates) (process : String) : Dialogue (Except Error Bytes) := do
  match ← Dialogue.run (Template.fill t.pgrep [("process", process)]) with
  | .ok output => return .ok output.toBytes
  | .error e => return .error (.command e)

end TestRig.Host
