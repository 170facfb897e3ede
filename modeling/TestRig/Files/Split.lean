/-
  TestRig.Files.Split

  Cutting a file into parts beside it.  Each part asks for a number of bytes and gets
  as many of the next ones as there are; bytes that no part asked for are left out.
-/
import TestRig.Files.Directory
import TestRig.Random.Range

namespace TestRig.Files

/-- How many bytes the parts ask for. -/
inductive PartSizing where
  /-- The same number each; the last part asks for the remainder too. -/
  | equal
  /-- A random number each, from a tenth of the total up to the total. -/
  | random
  deriving DecidableEq, Inhabited

/-- One part of a file that was split. -/
structure SplitPart where
  output : String
  size : UInt64
  deriving DecidableEq

/-- The seed of the random part sizes, always the same, so that a split can be repeated. -/
def splitSeed : UInt64 := 1048576

namespace PartSizing

/-- The numbers of bytes that the parts ask for, of a file of `total` bytes. -/
def requests (sizing : PartSizing) (total parts : Nat) : List Nat :=
  match sizing with
  | .equal => List.replicate (parts - 1) (total / parts) ++ [total / parts + total % parts]
  | .random =>
    (Random.drawMany (UInt64.ofNat (total / 10)) (UInt64.ofNat total) parts
      (Random.Generator.ofSeed splitSeed)).map UInt64.toNat

end PartSizing

/-- The path of part `i` of a file. -/
def partPath (dir name : String) (i : Nat) : String :=
  Path.join dir (name ++ "_out" ++ toString i)

/-- Writes one part, out of the file at `source`, of which the first `offset` bytes have been read;
the result is the content of the part. -/
@[irreducible] def writePart (source : Location) (output : String) (offset want : Nat)
    (fs : FileSystem) : Except FileError Bytes × FileSystem :=
  match onPath output (fs.openForWriting (Text.encode output) true 0o666) with
  | .error e => (.error e, fs)
  | .ok (dest, fs) =>
    match onPath output (fs.readAt source offset want) with
    | .error e => (.error e, fs)
    | .ok part => (.ok part, fs.setContent dest part)

/-- Writes the parts from number `i` on, up to the first failure. -/
def writeParts (source : Location) (dir name : String) (i offset : Nat) :
    List Nat → FileSystem → Except FileError (List SplitPart) × FileSystem
  | [], fs => (.ok [], fs)
  | want :: rest, fs =>
    match writePart source (partPath dir name i) offset want fs with
    | (.error e, fs) => (.error e, fs)
    | (.ok part, fs) =>
      match writeParts source dir name (i + 1) (offset + part.length) rest fs with
      | (.ok parts, fs) =>
        (.ok (⟨partPath dir name i, UInt64.ofNat part.length⟩ :: parts), fs)
      | (.error e, fs) => (.error e, fs)

/-- Splits a file into parts that stand beside it. -/
def split (fs : FileSystem) (path : String) (parts : Nat) (sizing : PartSizing) :
    Except FileError (List SplitPart) × FileSystem :=
  if parts = 0 then (.error (.invalidArgument "split into zero parts"), fs)
  else
    match Path.fileName? path with
    | none => (.error (.invalidArgument (path ++ " has no file name")), fs)
    | some name =>
      -- a bare name has the empty path above it, beside which the parts stand
      let dir := (Path.parent? path).getD "."
      match onPath path (fs.locate (Text.encode path) .follow),
        onPath path (fs.size (Text.encode path)) with
      | .ok source, .ok total =>
        writeParts source dir name 0 0 (sizing.requests total parts) fs
      | .error e, _ => (.error e, fs)
      | _, .error e => (.error e, fs)

end TestRig.Files
