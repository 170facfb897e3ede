/-
  TestRig.FileSystem.Access

  The operations on files and directories by path: following a path to its location,
  looking, reading, and changing.  To the system a path is a sequence of bytes.  An
  operation that is refused changes nothing.
-/
import TestRig.FileSystem.Basic
import TestRig.Text.Lines

namespace TestRig

namespace FileSystem

/-! ## Following paths -/

/-- The byte between the names of a path. -/
def slash : UInt8 := 0x2F

/-- The name of the directory itself. -/
def here : Name := [0x2E]

/-- The name of the directory above. -/
def above : Name := [0x2E, 0x2E]

/-- The names along a path.  A slash at the end asks for a directory, as one more name for the
directory itself would. -/
def stepsOf (path : Bytes) : List Name :=
  let names := (Text.splitAt slash path).filter (!·.isEmpty)
  if path.getLast? = some slash then names ++ [here] else names

/-- The path without slashes at its end; the root keeps them. -/
def withoutSlashes (path : Bytes) : Bytes :=
  let bare := (path.reverse.dropWhile (· = slash)).reverse
  if bare.isEmpty then path else bare

/-- How many symbolic links a path may lead through. -/
def linkLimit : Nat := 40

/-- What is done with a symbolic link that stands last on a path. -/
inductive LastLink where
  /-- It is followed. -/
  | follow
  /-- It is what the path leads to. -/
  | keep
  deriving DecidableEq

/-- Follows names from a location.  Every name is looked up in a directory that is there; the last
one may name nothing, and if it names a link, `last` says whether that is followed. -/
def walk (fs : FileSystem) (last : LastLink) (links : Nat) (loc : Location) :
    List Name → Except IoError Location
  | [] => .ok loc
  | name :: rest =>
    match fs.lookup loc with
    | some (.directory _) =>
      if name = here then walk fs last links loc rest
      -- above the root is the root
      else if name = above then walk fs last links loc.dropLast rest
      else if 255 < name.length then .error .nameTooLong
      else
        let next := loc ++ [name]
        match fs.lookup next with
        | some (.link target) =>
          if rest.isEmpty && last = .keep then .ok next
          else match links with
            | 0 => .error .tooManyLinks
            | links + 1 =>
              -- the text of a link is followed from the directory that holds it
              let start := if target.head? = some slash then [] else loc
              walk fs last links start (stepsOf target ++ rest)
        | _ => walk fs last links next rest
    | some _ => .error .notDirectory
    | none => .error .noEntry
  termination_by names => (links, names.length)

/-- The location to which a path leads. -/
def locate (fs : FileSystem) (path : Bytes) (last : LastLink) :
    Except IoError Location :=
  if path.contains 0 then .error .nulInPath
  else if path.isEmpty then .error .noEntry
  else if 4096 ≤ path.length then .error .nameTooLong
  else
    let start := if path.head? = some slash then [] else fs.current
    fs.walk last linkLimit start (stepsOf path)

/-! ## Looking -/

/-- The node to which a path leads, and its location. -/
def find (fs : FileSystem) (path : Bytes) (last : LastLink) :
    Except IoError (Location × Node) := do
  let loc ← fs.locate path last
  match fs.lookup loc with
  | some node => .ok (loc, node)
  | none => .error .noEntry

/-- Does the path lead to anything? -/
def pathExists (fs : FileSystem) (path : Bytes) : Bool := (fs.find path .follow).toOption.isSome

/-- Does the path lead to a directory? -/
def isDirectory (fs : FileSystem) (path : Bytes) : Bool :=
  match fs.find path .follow with
  | .ok (_, node) => node.isDirectory
  | .error _ => false

/-- The names of the entries of the directory to which a path leads. -/
def entries (fs : FileSystem) (path : Bytes) : Except IoError (List Name) := do
  match ← fs.find path .follow with
  | (loc, .directory _) => .ok (fs.names loc)
  | _ => .error .notDirectory

/-- The content of the file to which a path leads.  The endless device has no content that could be
read whole; its reading is refused as too large. -/
def read (fs : FileSystem) (path : Bytes) : Except IoError Bytes := do
  match ← fs.find path .follow with
  | (_, .file _ content) => .ok content
  | (_, .device .null) => .ok []
  | (_, .device .zero) => .error (.system 12)
  | _ => .error .isDirectory

/-- The size of what a path leads to, as the system reports it. -/
def size (fs : FileSystem) (path : Bytes) : Except IoError Nat := do
  let (_, node) ← fs.find path .follow
  .ok node.size

/-! ## Files -/

/-- The permission bits of a new file or directory for which a mode is asked. -/
def maskMode (fs : FileSystem) (mode : Nat) : Nat :=
  (mode &&& 0o1777) &&& (0o7777 ^^^ (fs.umask &&& 0o777))

/-- Opens a file for writing: creates it with a mode if it is missing, and empties it if
`truncate` says so. -/
def openForWriting (fs : FileSystem) (path : Bytes) (truncate : Bool)
    (mode : Nat) : Except IoError (Location × FileSystem) := do
  let bare := withoutSlashes path
  -- with a slash behind it a missing file would have to be a directory
  let missing := bare != path && match fs.locate bare .follow with
    | .ok loc => (fs.lookup loc).isNone
    | .error _ => false
  if missing then throw .isDirectory
  let loc ← fs.locate path .follow
  match fs.lookup loc with
  | some (.directory _) => .error .isDirectory
  | some (.file mode content) =>
    .ok (loc, if truncate then fs.put loc (.file mode []) else fs.put loc (.file mode content))
  | some _ => .ok (loc, fs)
  | none => .ok (loc, fs.put loc (.file (fs.maskMode mode) []))

/-- Replaces the content of an open file; what is written to a device is gone. -/
def setContent (fs : FileSystem) (loc : Location) (content : Bytes) : FileSystem :=
  match fs.lookup loc with
  | some (.file mode _) => fs.put loc (.file mode content)
  | _ => fs

/-- The content of an open file. -/
def contentAt (fs : FileSystem) (loc : Location) : Bytes :=
  match fs.lookup loc with
  | some (.file _ content) => content
  | _ => []

/-- The next bytes of an open file, at most `count`. -/
def readAt (fs : FileSystem) (loc : Location) (offset count : Nat) : Except IoError Bytes :=
  if count = 0 then .ok []
  else match fs.lookup loc with
    | some (.file _ content) => .ok ((content.drop offset).take count)
    | some (.device .zero) => .ok (List.replicate count 0)
    | some (.directory _) => .error .isDirectory
    | _ => .ok []

/-- Creates a file with a content, or replaces the content of the one that is there. -/
def write (fs : FileSystem) (path : Bytes) (content : Bytes) : Except IoError FileSystem := do
  let (loc, fs) ← fs.openForWriting path true 0o666
  .ok (fs.setContent loc content)

/-- Copies the content and the mode of a file.  The destination is emptied first and the source read
then, so a file that is copied onto itself ends up empty. -/
def copy (fs : FileSystem) (source target : Bytes) : Except IoError FileSystem := do
  let (loc, node) ← fs.find source .follow
  match node with
  | .file mode _ =>
    let (dest, fs) ← fs.openForWriting target true mode
    -- read after the destination was emptied, which may be the same file
    let content := fs.contentAt loc
    match fs.lookup dest with
    | some (.file ..) => .ok (fs.put dest (.file mode content))
    | _ => .ok fs
  | _ => .error (.other "the source path is neither a regular file nor a symlink to a regular file")

/-- Removes a file, or a symbolic link itself. -/
def removeFile (fs : FileSystem) (path : Bytes) : Except IoError FileSystem := do
  match ← fs.find path .keep with
  | (_, .directory _) => .error .isDirectory
  | (loc, _) => .ok (fs.erase loc)

/-- Creates a symbolic link with a text. -/
def makeLink (fs : FileSystem) (target link : Bytes) : Except IoError FileSystem := do
  if target.contains 0 then throw .nulInPath
  if target.isEmpty then throw .noEntry
  let loc ← fs.locate link .keep
  match fs.lookup loc with
  | some _ => .error .alreadyThere
  | none => .ok (fs.put loc (.link target))

/-! ## Directories -/

/-- Creates a directory with a mode. -/
def makeDirectory (fs : FileSystem) (path : Bytes) (mode : Nat) :
    Except IoError FileSystem := do
  let loc ← fs.locate (withoutSlashes path) .keep
  match fs.lookup loc with
  | some _ => .error .alreadyThere
  | none => .ok (fs.put loc (.directory (fs.maskMode mode)))

/-- Removes an empty directory. -/
def removeDirectory (fs : FileSystem) (path : Bytes) : Except IoError FileSystem := do
  -- a directory is not removed under the name of a single dot
  if (stepsOf (withoutSlashes path)).getLast? = some here then
    throw .invalidArgument
  match ← fs.find path .keep with
  | (loc, .directory _) =>
    if loc.isEmpty then .error (.system 16)
    else if (fs.names loc).isEmpty then .ok (fs.erase loc)
    else .error .notEmpty
  | _ => .error .notDirectory

/-- Removes a directory and everything below it.  A symbolic link below it is removed itself; what
it points to stays. -/
def removeTree (fs : FileSystem) (path : Bytes) : Except IoError FileSystem := do
  match ← fs.find path .keep with
  | (_, .file ..) => .error .notDirectory
  | (_, .device _) => .error .notDirectory
  | (loc, .link _) => .ok (fs.erase loc)
  | (loc, .directory _) => if loc.isEmpty then .error (.system 16) else .ok (fs.eraseTree loc)

end FileSystem

end TestRig
