/-
  TestRig.Files.Volume

  How full a volume is.  Volumes count in blocks; byte counts stop at the largest
  number of sixty-four bits.
-/
import TestRig.Decimal.Rounded
import TestRig.FileSystem.Access
import TestRig.Files.Directory

namespace TestRig.Files

/-- What a volume reports of itself: its blocks, their size in bytes, and the free ones. -/
structure Volume where
  blocks : UInt64
  blockSize : UInt64
  free : UInt64
  deriving DecidableEq

/-- The product, or the largest number when it is too large. -/
def boundedProduct (a b : UInt64) : UInt64 :=
  if a.toNat * b.toNat < UInt64.size then a * b else UInt64.ofNat (UInt64.size - 1)

/-- The difference, or zero when it is negative. -/
def boundedDifference (a b : UInt64) : UInt64 := if b ≤ a then a - b else 0

/-- `part` of `total` in percent; of nothing it is zero. -/
def percent (part total : Float) : Float := if total == 0.0 then 0.0 else part / total * 100.0

namespace Volume

/-- The bytes of the volume. -/
def totalBytes (v : Volume) : UInt64 := boundedProduct v.blocks v.blockSize

/-- The bytes in use. -/
def usedBytes (v : Volume) : UInt64 :=
  boundedProduct (boundedDifference v.blocks v.free) v.blockSize

/-- The share in use in percent, with one decimal. -/
def usage (v : Volume) : String :=
  if v.totalBytes = 0 then "0.0"
  else Decimal.fixed 1 (percent v.usedBytes.toFloat v.totalBytes.toFloat)

end Volume

/-- The volume that holds everything in a file system: its content is kept in memory and takes no
blocks. -/
def memoryVolume : Volume := ⟨0, 4096, 0⟩

/-- The share in use of the volume that holds a path.  The question about volumes takes the
character that ends a path for an invalid argument. -/
def diskUsage (fs : FileSystem) (path : String) : Except FileError String :=
  let found := (fs.find (Text.encode path) .follow).mapError fun refusal =>
    if refusal = .nulInPath then .invalidArgument else refusal
  (onPath path found).map fun _ => memoryVolume.usage

end TestRig.Files
