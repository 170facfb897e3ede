/-
  TestRig.Files.Cleanup

  Emptying a directory.  Its entries are removed one after the other in the order in
  which they are listed, and the first one that cannot be removed ends the cleanup.
-/
import TestRig.Files.Directory

namespace TestRig.Files

/-- Removes the entries of the given names below a directory in turn, by a removal that may fail and
whose state is passed along.  `removed` entries are gone already. -/
def sweep {σ : Type} (remove : σ → String → Except IoError Unit × σ) (dir : String)
    (removed : Nat) : List String → σ → Except FileError Nat × σ
  | [], s => (.ok removed, s)
  | name :: rest, s =>
    let path := Path.join dir name
    match remove s path with
    | (.ok (), s) => sweep remove dir (removed + 1) rest s
    | (.error refusal, s) => (.error (.cleanupAborted path removed refusal.message), s)

/-- Removes an entry: a directory with all that is below it, anything else by itself. -/
def removeEntry (fs : FileSystem) (path : String) : Except IoError Unit × FileSystem :=
  let bytes := Text.encode path
  let removal := do
    let (_, node) ← fs.find bytes .keep
    if node.isDirectory then fs.removeTree bytes else fs.removeFile bytes
  match removal with
  | .ok fs => (.ok (), fs)
  | .error refusal => (.error refusal, fs)

/-- Removes everything inside a directory, by a removal of single entries; the result is the number
of entries removed.  `files` shows the file system within the state of the removal. -/
def cleanupWith {σ : Type} (files : σ → FileSystem)
    (remove : σ → String → Except IoError Unit × σ) (s : σ) (dir : String) :
    Except FileError Nat × σ :=
  match list (files s) dir with
  | .error e => (.error e, s)
  | .ok names => sweep remove dir 0 names s

/-- Removes everything inside a directory, which itself stays. -/
def cleanup (fs : FileSystem) (dir : String) : Except FileError Nat × FileSystem :=
  cleanupWith id removeEntry fs dir

end TestRig.Files
