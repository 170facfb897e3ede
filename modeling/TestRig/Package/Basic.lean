/-
  TestRig.Package.Basic

  What is asked about packages and answered: whether one is installed, which ones
  match a filter, and what a former deployment left on a machine.
-/
import TestRig.Command.Error
import TestRig.Text.Search
import TestRig.Text.Utf8

namespace TestRig.Package

/-! ## Errors -/

/-- Why a question about packages or hosts has no answer. -/
inductive Error where
  /-- There is no package manager. -/
  | managerNotFound (what : String)
  /-- The caller passed something unusable. -/
  | invalidArgument (what : String)
  /-- A command that was to answer failed. -/
  | command (error : Command.Error)
  deriving DecidableEq

namespace Error

/-- The wording of the error. -/
def message : Error → String
  | managerNotFound what => "package manager not found: " ++ what
  | invalidArgument what => "invalid argument: " ++ what
  | command error => error.message

/-- The kind of the error. -/
def kind : Error → ErrorKind
  | managerNotFound _ => .notFound
  | invalidArgument _ => .invalidInput
  | command error => error.kind

/-- May the same question be answered when it is simply asked again? -/
def isRetryable : Error → Bool
  | command error => error.isRetryable
  | _ => false

end Error

/-! ## Answers -/

/-- The answer to whether a package is installed, with a text for the reader. -/
structure Presence where
  installed : Bool
  message : String
  deriving DecidableEq

namespace Presence

/-- The package is installed. -/
def found : Presence := ⟨true, "Expected RPM installed"⟩

/-- The package is not installed. -/
def notFound : Presence := ⟨false, "RPM not found"⟩

/-- A package counts as installed when its name stands in the name of an installed one. -/
def ofInstalled (installed : List String) (expected : String) : Presence :=
  if installed.any fun name => Text.occursIn expected.toList name.toList then found else notFound

end Presence

/-- The answer to a listing. -/
inductive Listing where
  /-- The names of the packages. -/
  | packages (names : List String)
  /-- What was written was no text. -/
  | raw (content : Bytes)
  deriving DecidableEq

namespace Listing

/-- The names of the packages, none if what was written was no text. -/
def names : Listing → List String
  | packages names => names
  | raw _ => []

/-- Is there a package? -/
def found (l : Listing) : Bool := !l.names.isEmpty

end Listing

/-- What a former deployment left on a machine. -/
structure MachineState where
  /-- Packages that match the filter are installed. -/
  rpmInstalled : Bool := false
  /-- The directory of the provisioner has entries. -/
  provisionerPresent : Bool := false
  deriving DecidableEq, Inhabited

/-- Was nothing left? -/
def MachineState.isClean (s : MachineState) : Bool := !s.rpmInstalled && !s.provisionerPresent

end TestRig.Package
