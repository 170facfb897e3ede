/-
  TestRig.Digest.Basic

  Digests of content: the algorithms, a digest with its two written forms, and the
  reading of a digest from the line that a checksum tool prints.
-/
import TestRig.Digest.Md5
import TestRig.Digest.Sha256
import TestRig.Text.Base64
import TestRig.Text.Blank
import TestRig.Text.Hex

namespace TestRig

namespace Digest

/-- The algorithms. -/
inductive Algorithm where
  | md5
  | sha256
  deriving DecidableEq, Inhabited

namespace Algorithm

/-- The name of the algorithm, as command-line tools know it. -/
def name : Algorithm → String
  | md5 => "md5"
  | sha256 => "sha256"

/-- The algorithm of a name. -/
def ofName? : String → Option Algorithm
  | "md5" => some md5
  | "sha256" => some sha256
  | _ => none

/-- The bytes of the digest of a message. -/
def apply : Algorithm → Bytes → Bytes
  | md5 => Md5.digest
  | sha256 => Sha256.digest

end Algorithm

end Digest

/-- The digest of some content. -/
structure Digest where
  algorithm : Digest.Algorithm
  bytes : Bytes
  deriving DecidableEq

namespace Digest

/-- The digest of a message. -/
def ofMessage (algorithm : Algorithm) (message : Bytes) : Digest :=
  ⟨algorithm, algorithm.apply message⟩

/-- The digest in lower-case hexadecimal digits. -/
def toHex (d : Digest) : String := Text.Hex.encode d.bytes

/-- The digest in base64. -/
def toBase64 (d : Digest) : String := Text.Base64.encode d.bytes

/-- The digest at the front of a line of a checksum tool: the first word, when it has only
hexadecimal digits. -/
def ofSumLine? (line : String) : Option String :=
  let word := (line.toList.dropWhile Text.isBlank).takeWhile (!Text.isBlank ·)
  if word.isEmpty || !word.all Text.Hex.isDigit then none else some (String.ofList word)

end Digest

end TestRig
