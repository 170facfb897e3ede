/-
  TestRig.Files.Backup

  Copying files into a directory beside them, and back from it.  In the directory a
  file goes by its last name alone.  The first copy that fails ends the batch, and
  the copies made before it stay.
-/
import TestRig.Files.Directory

namespace TestRig.Files

/-- The two ways of copying. -/
inductive BackupAction where
  /-- Into the backup directory. -/
  | backup
  /-- From the backup directory to where the file came from. -/
  | restore
  deriving DecidableEq

namespace BackupAction

/-- From where to where a file is copied; there is no answer for a path without a last name. -/
def route? (action : BackupAction) (dir file : String) : Option (String × String) :=
  (Path.fileName? file).map fun name =>
    match action with
    | .backup => (file, Path.join dir name)
    | .restore => (Path.join dir name, file)

/-- Gets ready: a backup creates its directory if that is missing, a restore needs it. -/
def prepare (action : BackupAction) (fs : FileSystem) (dir : String) :
    Except FileError FileSystem :=
  match action with
  | .backup =>
    if fs.pathExists (Text.encode dir) then .ok fs
    else onPath dir (fs.makeDirectory (Text.encode dir) 0o777)
  | .restore =>
    if fs.isDirectory (Text.encode dir) then .ok fs else .error (.notFound dir)

/-- Copies one file; the result is the destination. -/
def copyOne (action : BackupAction) (fs : FileSystem) (dir file : String) :
    Except FileError (String × FileSystem) :=
  match action.route? dir file with
  | none => .error (.invalidArgument (file ++ " has no file name"))
  | some (source, target) =>
    (onPath source (fs.copy (Text.encode source) (Text.encode target))).map fun fs => (target, fs)

/-- Copies files in turn, up to the first failure. -/
def copyAll (action : BackupAction) (dir : String) :
    List String → FileSystem → Except FileError (List String) × FileSystem
  | [], fs => (.ok [], fs)
  | file :: rest, fs =>
    match action.copyOne fs dir file with
    | .error e => (.error e, fs)
    | .ok (target, fs) =>
      match copyAll action dir rest fs with
      | (.ok targets, fs) => (.ok (target :: targets), fs)
      | (.error e, fs) => (.error e, fs)

/-- Backs files up, or restores them; the result lists the destinations in the order of the
files. -/
def run (action : BackupAction) (fs : FileSystem) (dir : String) (files : List String) :
    Except FileError (List String) × FileSystem :=
  match action.prepare fs dir with
  | .error e => (.error e, fs)
  | .ok fs => action.copyAll dir files fs

end BackupAction

end TestRig.Files
