/-
  TestRig.Files.Generation

  What the making of test files is told: where the content comes from, in blocks of
  which size, and between which bounds random sizes lie.
-/
import TestRig.Command.Template
import TestRig.Files.Error

namespace TestRig.Files

/-- Where the content of a new file comes from: a device, read in blocks. -/
structure BlockSource where
  device : String := "/dev/zero"
  blockSize : String := "1M"
  deriving DecidableEq, Inhabited

/-- Bounds for a size in mebibytes, both included. -/
structure SizeRange where
  minMb : UInt64
  maxMb : UInt64
  deriving DecidableEq

/-- The command that creates a file of `count` blocks. -/
def createCommand (t : Templates) (path : String) (count : Nat) (source : BlockSource) : String :=
  Template.fill t.createFile
    [("device", source.device), ("path", path), ("block_size", source.blockSize),
     ("count", toString count)]

/-- A range must hold a size. -/
def SizeRange.check (range : SizeRange) : Except FileError Unit :=
  if range.maxMb < range.minMb then
    .error (.invalidArgument
      ("size range " ++ toString range.minMb ++ "..=" ++ toString range.maxMb ++ " MB is empty"))
  else .ok ()

end TestRig.Files
