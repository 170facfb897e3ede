/-
  TestRig.Files.Checksum

  Checksums of files: of the content as it is read here, and by the command lines of
  external tools.
-/
import TestRig.Command.Template
import TestRig.Digest.Basic
import TestRig.Files.Directory

namespace TestRig.Files

/-- The two forms in which external tools give a checksum. -/
inductive ChecksumFormat where
  /-- The bytes of the digest in base64. -/
  | base64Binary
  /-- Hexadecimal digits and the name of the file. -/
  | hex
  deriving DecidableEq, Inhabited

/-- The digest of the content of a file. -/
def digest (fs : FileSystem) (path : String) (algorithm : Digest.Algorithm) :
    Except FileError Digest :=
  (onPath path (fs.read (Text.encode path))).map (Digest.ofMessage algorithm)

/-- The command that computes a checksum; options go to the hexadecimal form alone. -/
def checksumCommand (t : Templates) (path : String) (algorithm : Digest.Algorithm)
    (format : ChecksumFormat) (options : String) : String :=
  match format with
  | .base64Binary =>
    Template.fill t.checksumBase64 [("algorithm", algorithm.name), ("path", path)]
  | .hex =>
    Template.fill t.checksumHex
      [("algorithm", algorithm.name), ("options", options), ("path", path)]

end TestRig.Files
