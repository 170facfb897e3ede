/-
  TestRig.FileSystem.Path

  Paths as text.  A path is a sequence of names between slashes.  Empty names and
  names of a single dot stand for nothing, so that `a//b/./` leads where `a/b` does;
  they are nevertheless kept in the text of a path.
-/
import TestRig.Text.Lines

namespace TestRig.Path

/-- Does the path start at the root? -/
def isAbsolute (path : List Char) : Bool := path.head? = some '/'

/-- A name that stands for nothing. -/
def isIdle (name : List Char) : Bool := name.isEmpty || name = ['.']

/-- The pieces of a path up to the last one that stands for something. -/
def meaningful (pieces : List (List Char)) : List (List Char) :=
  (pieces.reverse.dropWhile isIdle).reverse

/-- The pieces of a path with slashes between them. -/
def joinPieces (pieces : List (List Char)) : List Char := ['/'].intercalate pieces

/-- The last name of a path; there is none when the path ends in two dots or has no name. -/
def fileName? (path : String) : Option String :=
  match (meaningful (Text.splitAt '/' path.toList)).getLast? with
  | some name => if name = ['.', '.'] then none else some (String.ofList name)
  | none => none

/-- The path without its last name.  The parent of a bare name is the empty path; the root and the
empty path have no parent. -/
def parent? (path : String) : Option String :=
  let text := path.toList
  let pieces := Text.splitAt '/' text
  let kept := meaningful pieces
  if kept.isEmpty then
    if text.isEmpty || isAbsolute text then none else some ""
  else
    let above := meaningful kept.dropLast
    if !above.isEmpty then some (String.ofList (joinPieces above))
    else if isAbsolute text then some "/"
    else if kept.length > 1 && pieces.head? = some ['.'] then some "."
    else some ""

/-- The path of `name` below `base`; an absolute `name` stands for itself. -/
def join (base name : String) : String :=
  if isAbsolute name.toList || base.isEmpty then name
  else if base.toList.getLast? = some '/' then base ++ name
  else base ++ "/" ++ name

end TestRig.Path
