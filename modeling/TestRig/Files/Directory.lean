/-
  TestRig.Files.Directory

  Listing, creating and removing directories, and the small operations on single
  files.  Names are listed in ascending order; one that is not UTF-8 is listed in
  its lenient decoding.
-/
import TestRig.FileSystem.Access
import TestRig.FileSystem.Path
import TestRig.Files.Error

namespace TestRig.Files

/-- A refusal of the system on a path, as an error of the operation. -/
def onPath {α : Type} (path : String) (result : Except IoError α) : Except FileError α :=
  result.mapError (FileError.ofIo path)

/-! ## Directories -/

/-- Names as they are listed: decoded and in ascending order. -/
def shownNames (names : List Name) : List String :=
  (names.map Text.decodeLossy).mergeSort fun a b => a ≤ b

/-- The names of the entries of a directory, in ascending order. -/
def list (fs : FileSystem) (dir : String) : Except FileError (List String) :=
  onPath dir ((fs.entries (Text.encode dir)).map shownNames)

/-- Does a directory list an entry of this name? -/
def contains (fs : FileSystem) (dir name : String) : Except FileError Bool :=
  (list fs dir).map (·.contains name)

/-- Creates one directory. -/
def makeDirectory (fs : FileSystem) (path : String) (mode : Option Nat) :
    Except FileError FileSystem :=
  onPath path (fs.makeDirectory (Text.encode path) (mode.getD 0o777))

/-- Creates a directory and the directories above it that are missing, at most as many as are
given.  A directory that is there already is enough. -/
def makeLevels (fs : FileSystem) (mode : Nat) : Nat → String → Except IoError FileSystem
  | 0, _ => .error .nameTooLong
  | levels + 1, path =>
    let make := fun (fs : FileSystem) => fs.makeDirectory (Text.encode path) mode
    let settle := fun (fs : FileSystem) (refusal : IoError) =>
      if fs.isDirectory (Text.encode path) then Except.ok fs else .error refusal
    if path.isEmpty then .ok fs
    else
      match make fs with
      | .ok fs => .ok fs
      | .error refusal =>
        if refusal = .noEntry then do
          match Path.parent? path with
          | none => .error (.other "failed to create whole tree")
          | some parent =>
            -- the parent comes first; then this level is tried once more
            let fs ← makeLevels fs mode levels parent
            match make fs with
            | .ok fs => .ok fs
            | .error refusal => settle fs refusal
        else settle fs refusal

/-- Creates a directory and the directories above it that are missing. -/
def makeDirectories (fs : FileSystem) (path : String) (mode : Option Nat) :
    Except FileError FileSystem :=
  onPath path (makeLevels fs (mode.getD 0o777) (path.length + 1) path)

/-- Removes an empty directory, and makes sure that the path leads nowhere afterwards. -/
def removeDirectory (fs : FileSystem) (path : String) : Except FileError Unit × FileSystem :=
  match onPath path (fs.removeDirectory (Text.encode path)) with
  | .error e => (.error e, fs)
  | .ok fs => (if fs.pathExists (Text.encode path) then .error (.stillExists path) else .ok (), fs)

/-! ## Single files -/

/-- Creates an empty file, or empties the one that is there; tells whether it is there then. -/
def makeEmpty (fs : FileSystem) (path : String) : Except FileError (Bool × FileSystem) :=
  (onPath path (fs.write (Text.encode path) [])).map fun fs =>
    (fs.pathExists (Text.encode path), fs)

/-- Creates a symbolic link. -/
def makeLink (fs : FileSystem) (target link : String) : Except FileError FileSystem :=
  onPath link (fs.makeLink (Text.encode target) (Text.encode link))

/-- Removes a file. -/
def removeFile (fs : FileSystem) (path : String) : Except FileError FileSystem :=
  onPath path (fs.removeFile (Text.encode path))

end TestRig.Files
