/-
  TestRig.FileSystem.Changes

  What leads from one file system to another, step by step: what has to go, the
  deepest first, and then what has to be put, the highest first, so that a directory
  is empty when it goes and is there when something is put into it.
-/
import TestRig.FileSystem.Basic

namespace TestRig

/-- A step from one file system to another. -/
inductive Change where
  /-- The node at a location goes. -/
  | remove (loc : Location)
  /-- A node is put at a location. -/
  | put (loc : Location) (node : Node)

namespace FileSystem

/-- Can a node take the place of another without the other going first?  Directories and other nodes
cannot take each other's place. -/
def replaces (new old : Node) : Bool := new.isDirectory = old.isDirectory

/-- The locations of `before` whose nodes have to go on the way to `after`. -/
def leaving (before after : FileSystem) : List Location :=
  let gone := before.nodes.filter fun (loc, old) =>
    match after.lookup loc with
    | some new => !replaces new old
    | none => true
  (gone.map (·.1)).mergeSort fun a b => b.length ≤ a.length

/-- The nodes of `after` that `before` does not have. -/
def arriving (before after : FileSystem) : List (Location × Node) :=
  (after.nodes.filter fun (loc, node) => before.lookup loc ≠ some node).mergeSort
    fun a b => a.1.length ≤ b.1.length

/-- The steps from one file system to another. -/
def changes (before after : FileSystem) : List Change :=
  (leaving before after).map .remove ++
    (arriving before after).map fun (loc, node) => .put loc node

end FileSystem

end TestRig
