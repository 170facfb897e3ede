/-
  TestRig.Main

  The program.  It reads the files that lie below the directory of work and below the
  paths that its arguments name, carries the request out on a machine that has these
  files, and brings the files of the system in line with those of the machine.
  Permission bits are not read, and links are not written: the system at hand shows
  and makes neither.
-/
import TestRig.CommandLine.Run
import TestRig.FileSystem.Changes

namespace TestRig.Main

/-- The permission bits that a file or a directory is taken to have. -/
def assumedMode (directory : Bool) : Nat := if directory then 0o755 else 0o644

/-- The location that an absolute path without dots names. -/
def locationOf (path : String) : Location :=
  ((Text.splitAt '/' path.toList).filter fun name => !name.isEmpty).map
    fun name => Text.encode (String.ofList name)

/-- The absolute path that leads to a location. -/
def pathOf (loc : Location) : String := "/" ++ "/".intercalate (loc.map Text.decodeLossy)

/-- The path without links and dots, when something is there. -/
def realPath? (path : String) : IO (Option String) := do
  try return some (← IO.FS.realPath path).toString
  catch _ => return none

/-- The directories that lead to a path. -/
def above (path : String) : List (Location × Node) :=
  let loc := locationOf path
  (List.range loc.length).map fun n => (loc.take n, Node.directory 0o755)

/-- The nodes at a path and below it.  What cannot be read is passed over. -/
partial def survey (path : String) : IO (List (Location × Node)) := do
  try
    let real ← IO.FS.realPath path
    let loc := locationOf path
    if real.toString ≠ path then
      return [(loc, .link (Text.encode real.toString))]
    match (← real.metadata).type with
    | .dir =>
      let below ← (← real.readDir).toList.mapM fun entry =>
        survey (Path.join path entry.fileName)
      return (loc, .directory (assumedMode true)) :: below.flatten
    | .file => return [(loc, .file (assumedMode false) (← IO.FS.readBinFile path).toList)]
    | _ => return []
  catch _ => return []

/-- The nodes that a path calls for: those at it and below it and the directories above it.  Nothing
is read for the root alone. -/
def surroundings (path : String) : IO (List (Location × Node)) := do
  match ← realPath? path with
  | some "/" => return []
  | some real => return above real ++ (← survey real)
  | none =>
    match ← (Path.parent? path).mapM realPath? with
    | some (some real) => return above (real ++ "/-")
    | _ => return []

/-- The variables of the environment that matter here. -/
def environment : IO (List (String × String)) := do
  let names := ["HOME", "LC_ALL", "PATH", "TESTBED_CONFIG", "TESTBED_SSH_PASSWORD",
    "XDG_CONFIG_HOME"]
  let values ← names.mapM fun name => do
    return (← IO.getEnv name).map fun value => (name, value)
  return values.reduceOption

/-- The first node of each location. -/
def firsts (nodes : List (Location × Node)) : List (Location × Node) :=
  nodes.foldl (fun kept entry => if kept.any (·.1 == entry.1) then kept else entry :: kept) []

/-- The machine that has the files that the paths call for. -/
def machine (paths : List String) : IO Machine := do
  let work := (← IO.FS.realPath ".").toString
  let found ← (work :: paths).mapM surroundings
  let nodes := (found.flatten ++ Machine.freshFiles.nodes).filter (·.1 ≠ [])
  return ⟨{ nodes := firsts nodes, current := locationOf work }, ← environment⟩

/-- The rights that three permission bits stand for. -/
def rights (bits : Nat) : IO.AccessRight := ⟨bits / 4 % 2 = 1, bits / 2 % 2 = 1, bits % 2 = 1⟩

/-- Gives a file or a directory its permission bits. -/
def setMode (path : String) (mode : Nat) : IO Unit :=
  IO.setAccessRights path ⟨rights (mode / 64 % 8), rights (mode / 8 % 8), rights (mode % 8)⟩

/-- Makes a change on the system. -/
def apply : Change → IO Unit
  | .remove loc => do
    let path := pathOf loc
    if (← (← IO.FS.realPath path).isDir) then IO.FS.removeDir path else IO.FS.removeFile path
  | .put loc (.file mode content) => do
    IO.FS.writeBinFile (pathOf loc) ⟨content.toArray⟩
    setMode (pathOf loc) mode
  | .put loc (.directory mode) => do
    IO.FS.createDirAll (pathOf loc)
    setMode (pathOf loc) mode
  | .put _ (.link _) | .put _ (.device _) => pure ()

/-- The number that begins the random numbers. -/
def seed : IO UInt64 := do
  return (← IO.getRandomBytes 8).toList.foldl (fun n b => n * 256 + b.toUInt64) 0

end TestRig.Main

open TestRig in
/-- Runs the program: what it writes goes to the output, what went wrong to the error output. -/
def main (arguments : List String) : IO UInt32 := do
  let configured := CommandLine.usualPaths ⟨{}, ← Main.environment⟩
  let start ← Main.machine (arguments ++ configured)
  let (outcome, after) := CommandLine.run start (← Main.seed) arguments
  (start.files.changes after.files).forM Main.apply
  IO.print outcome.output
  match outcome.failure with
  | some message => IO.eprintln ("Error: " ++ message)
  | none => if outcome.exitCode = 2 then IO.eprint CommandLine.usage
  return outcome.exitCode.toUInt32
