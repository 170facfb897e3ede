/-
  TestRig.Machine.Work

  Work on files that needs both the shell of the machine and its files: making test
  files, splitting them, and checksums by external tools; and whether a host answers.
-/
import TestRig.Files.Checksum
import TestRig.Files.Generation
import TestRig.Files.Split
import TestRig.Machine.Local
import TestRig.Package.Basic

namespace TestRig.Machine

open Files

/-- Changes the files of a machine. -/
def withFiles {α : Type} (m : Machine) (result : Except FileError α × FileSystem) :
    Except FileError α × Machine :=
  (result.1, { m with files := result.2 })

/-- Changes the files of a machine, or fails and leaves them. -/
def onFiles {α : Type} (m : Machine) (result : Except FileError (α × FileSystem)) :
    Except FileError α × Machine :=
  match result with
  | .ok (a, files) => (.ok a, { m with files })
  | .error e => (.error e, m)

/-- Creates a file from blocks of a source by the command of the templates; the result is its
size. -/
def createFile (m : Machine) (t : Templates) (path : String) (count : Nat) (source : BlockSource) :
    Except FileError Nat × Machine :=
  match m.runHere (createCommand t path count source) none with
  | (.error e, m) => (.error (.command e), m)
  | (.ok _, m) => (onPath path (m.files.size (Text.encode path)), m)

/-- Creates files of given sizes in mebibytes, named by a prefix and their number, from number `i`
on. -/
def createNumbered (t : Templates) (dir stem : String) (i : Nat) :
    List Nat → Machine → Except FileError Unit × Machine
  | [], m => (.ok (), m)
  | size :: rest, m =>
    match m.createFile t (Path.join dir (stem ++ toString i)) size {} with
    | (.error e, m) => (.error e, m)
    | (.ok _, m) => createNumbered t dir stem (i + 1) rest m

/-- Creates files of given sizes in mebibytes in a directory, which is made if it is missing; the
result lists the directory. -/
def createSized (m : Machine) (t : Templates) (dir stem : String) (sizes : List Nat) :
    Except FileError (List String) × Machine :=
  let made : Except FileError FileSystem :=
    if m.files.pathExists (Text.encode dir) then .ok m.files
    else makeDirectory m.files dir none
  match made with
  | .error e => (.error e, m)
  | .ok files =>
    match createNumbered t dir stem 0 sizes { m with files } with
    | (.error e, m) => (.error e, m)
    | (.ok (), m) => (list m.files dir, m)

/-- Creates a number of files of random sizes in a directory.  The sizes are drawn before the first
file is created. -/
def createMany {σ : Type} [Random.WordSource σ] (m : Machine) (t : Templates) (range : SizeRange)
    (count : Nat) (dir stem : String) (generator : σ) :
    Except FileError (List String) × Machine :=
  match range.check with
  | .error e => (.error e, m)
  | .ok () =>
    let sizes := Random.drawMany range.minMb range.maxMb count generator
    m.createSized t dir stem (sizes.map UInt64.toNat)

/-- Creates a file anew, with a size in mebibytes, and splits it. -/
def splitFresh (m : Machine) (t : Templates) (path : String) (sizeMb parts : Nat)
    (sizing : PartSizing) : Except FileError (List SplitPart) × Machine :=
  if parts = 0 then (.error (.invalidArgument "split into zero parts"), m)
  else
    let cleared : Except FileError FileSystem :=
      if m.files.pathExists (Text.encode path) then removeFile m.files path else .ok m.files
    match cleared with
    | .error e => (.error e, m)
    | .ok files =>
      match createFile { m with files } t path sizeMb {} with
      | (.error e, m) => (.error e, m)
      | (.ok _, m) => m.withFiles (split m.files path parts sizing)

/-- The checksum of a file by an external tool: what it writes, trimmed. -/
def checksum (m : Machine) (t : Templates) (path : String) (algorithm : Digest.Algorithm)
    (format : ChecksumFormat) (options : String) : Except FileError String × Machine :=
  if !m.files.pathExists (Text.encode path) then (.error (.notFound path), m)
  else
    match m.runHere (checksumCommand t path algorithm format options) none with
    | (.error e, m) => (.error (.command e), m)
    | (.ok output, m) => (.ok (Text.trim output.toText), m)

/-- Does a host answer?  It does when the command of the templates exits with status 0. -/
def ping (m : Machine) (t : Templates) (host : String) : Except Package.Error Bool × Machine :=
  if Text.isBlankText host then (.error (.invalidArgument "empty host"), m)
  else
    match m.capture (Template.fill t.ping [("host", host)]) none with
    | (.error e, m) => (.error (.command e), m)
    | (.ok c, m) => (.ok c.succeeded, m)

end TestRig.Machine
