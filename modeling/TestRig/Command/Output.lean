/-
  TestRig.Command.Output

  What a successful command wrote, as bytes or as lines, and the views on it that do
  not depend on which of the two it is.
-/
import TestRig.Text.Lines
import TestRig.Text.Search
import TestRig.Text.Utf8

namespace TestRig.Command

/-- The output of a successful command. -/
inductive Output where
  /-- The bytes as written. -/
  | bytes (content : Bytes)
  /-- The output already cut into lines. -/
  | lines (content : List String)
  deriving DecidableEq

namespace Output

/-- The output as trimmed lines without the blank ones.  Bytes that are not UTF-8 have no lines. -/
def lines? : Output → Option (List String)
  | .bytes content => (Text.decode? content).map Text.splitLines
  | .lines content => some ((Text.trimmedLines (content.map String.toList)).map String.ofList)

/-- The output as text: bytes are decoded leniently, lines are joined by line feeds. -/
def toText : Output → String
  | .bytes content => Text.decodeLossy content
  | .lines content => Text.joinLines content

/-- The output as bytes. -/
def toBytes : Output → Bytes
  | .bytes content => content
  | .lines content => Text.encode (Text.joinLines content)

/-- Is there no byte, or no line? -/
def isEmpty : Output → Bool
  | .bytes content => content.isEmpty
  | .lines content => content.isEmpty

end Output

/-- Does every keyword stand in one of the trimmed lines? -/
def hasKeywords (lines keywords : List String) : Bool :=
  keywords.all fun keyword =>
    lines.any fun line => Text.occursIn keyword.toList (Text.trimChars line.toList)

end TestRig.Command
