/-
  TestRig.Package.Query

  The questions about packages, as dialogues: each runs the command of a template and
  reads the reply.  A command that itself reports failure may be an answer, such as
  a search without a match; a failure to run it at all never is.
-/
import TestRig.Command.Dialogue
import TestRig.Command.Template
import TestRig.Package.Basic
import TestRig.Text.Blank

namespace TestRig.Package

open Command (Dialogue Output Reply)

/-- The trimmed lines of an output; one that is no text has none. -/
def linesOf (output : Output) : List String := output.lines?.getD []

/-! ## The questions -/

/-- Is a package with this name, or with a name in which it stands, installed?  When the list cannot
be had because its command failed, the answer is no. -/
def isInstalled (t : Templates) (expected : String) : Dialogue (Except Error Presence) := do
  match ← Dialogue.run t.rpmList with
  | .ok output => return .ok (Presence.ofInstalled (linesOf output) expected)
  | .error e => return if e.isCommandFailure then .ok .notFound else .error (.command e)

/-- Installs a package, given by name, path or address. -/
def install (t : Templates) (package : String) : Dialogue (Except Error Output) := do
  if Text.isBlankText package then return .error (.invalidArgument "empty package")
  match ← Dialogue.run (Template.fill t.rpmInstall [("package", package)]) with
  | .ok output => return .ok output
  | .error e => return .error (.command e)

/-- The command that lists the packages of a filter; a blank filter stands for all packages. -/
def listCommand (t : Templates) (filter : String) : String :=
  if Text.isBlankText filter then t.rpmList else Template.fill t.rpmGrep [("filter", filter)]

/-- Did a search end without a match?  Then it fails with status 1 and has nothing to say. -/
def isNoMatch : Command.Error → Bool
  | .failed status message => status = 1 && Text.isBlankText message
  | _ => false

/-- The listing that an output amounts to. -/
def Listing.ofOutput (output : Output) : Listing :=
  match output.lines? with
  | some lines => .packages lines
  | none => .raw output.toBytes

/-- Which packages match a filter? -/
def list (t : Templates) (filter : String) : Dialogue (Except Error Listing) := do
  match ← Dialogue.run (listCommand t filter) with
  | .ok output => return .ok (Listing.ofOutput output)
  | .error e => return if isNoMatch e then .ok (.packages []) else .error (.command e)

/-- The entries of a directory, as the listing command prints them.  A directory that the command
fails to list has none. -/
def entriesOf (t : Templates) (dir : String) : Dialogue (Except Error (List String)) := do
  match ← Dialogue.run (Template.fill t.listDir [("path", dir)]) with
  | .ok output => return .ok (linesOf output)
  | .error e => return if e.isCommandFailure then .ok [] else .error (.command e)

/-- Are packages of a filter installed, and has the directory of the provisioner entries? -/
def machineState (t : Templates) (filter dir : String) :
    Dialogue (Except Error MachineState) := do
  match ← list t filter with
  | .error e => return .error e
  | .ok listing =>
    match ← entriesOf t dir with
    | .error e => return .error e
    | .ok entries => return .ok ⟨listing.found, !entries.isEmpty⟩

/-- Is there a package manager? -/
def isAvailable : Dialogue Bool := do
  match ← Dialogue.run "which rpm" with
  | .ok output => return !output.isEmpty
  | .error _ => return false

end TestRig.Package
