/-
  TestRig.Files.Error

  Why an operation on files failed, with the wording and the kind of each cause.
-/
import TestRig.Command.Error
import TestRig.FileSystem.IoError

namespace TestRig

/-- Why an operation on files failed. -/
inductive FileError where
  | notFound (path : String)
  | alreadyExists (path : String)
  | permissionDenied (path : String)
  /-- The system gave any other reason. -/
  | io (path : String) (reason : String)
  /-- A directory is still there after its removal. -/
  | stillExists (path : String)
  /-- A cleanup stopped at an entry after `removed` others, which stay removed. -/
  | cleanupAborted (path : String) (removed : Nat) (reason : String)
  /-- The caller passed something unusable. -/
  | invalidArgument (what : String)
  /-- A command that was to do the work failed. -/
  | command (error : Command.Error)
  deriving DecidableEq

namespace FileError

/-- The cause that a refusal of the system on a path amounts to: the three common reasons have a
cause of their own. -/
def ofIo (path : String) (refusal : IoError) : FileError :=
  if refusal = .noEntry then .notFound path
  else if refusal = .alreadyThere then .alreadyExists path
  else if refusal = .notPermitted ∨ refusal = .accessDenied then .permissionDenied path
  else .io path refusal.message

/-- The wording of the error. -/
def message : FileError → String
  | notFound path => "not found: " ++ path
  | alreadyExists path => "already exists: " ++ path
  | permissionDenied path => "permission denied: " ++ path
  | io path reason => "I/O error on " ++ path ++ ": " ++ reason
  | stillExists path => "directory still exists after removal: " ++ path
  | cleanupAborted path removed reason =>
    "cleanup aborted at " ++ path ++ " after removing " ++ toString removed ++ " entries: " ++
      reason
  | invalidArgument what => "invalid argument: " ++ what
  | command error => error.message

/-- The kind of the error. -/
def kind : FileError → ErrorKind
  | notFound _ => .notFound
  | alreadyExists _ => .alreadyExists
  | permissionDenied _ => .permissionDenied
  | io .. | stillExists _ | cleanupAborted .. => .execution
  | invalidArgument _ => .invalidInput
  | command error => error.kind

/-- May the same operation succeed when it is simply tried again? -/
def isRetryable : FileError → Bool
  | command error => error.isRetryable
  | _ => false

end FileError

end TestRig
