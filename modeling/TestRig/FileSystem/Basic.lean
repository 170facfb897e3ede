/-
  TestRig.FileSystem.Basic

  A file system as a finite map from locations to nodes.  A location is the list of
  names that leads to a node from the root; names are sequences of bytes, as the
  system has them.  The view of a file system is `lookup`, and each change is
  described by what it does to that view.
-/
import TestRig.FileSystem.IoError
import TestRig.Text.Utf8

namespace TestRig

/-- The name of an entry of a directory. -/
abbrev Name := Bytes

/-- The names that lead from the root to a node. -/
abbrev Location := List Name

/-- The devices that take part. -/
inductive Device where
  /-- Reads as empty. -/
  | null
  /-- Reads as endless zeros. -/
  | zero
  deriving DecidableEq

/-- What stands at a location. -/
inductive Node where
  | file (mode : Nat) (content : Bytes)
  | directory (mode : Nat)
  /-- A symbolic link with its text. -/
  | link (target : Bytes)
  | device (device : Device)
  deriving DecidableEq

namespace Node

def isDirectory : Node → Bool
  | directory _ => true
  | _ => false

def isFile : Node → Bool
  | file .. => true
  | _ => false

def isLink : Node → Bool
  | link _ => true
  | _ => false

/-- The permission bits; those of links and devices never change. -/
def mode : Node → Nat
  | file mode _ | directory mode => mode
  | link _ => 0o777
  | device _ => 0o666

/-- The size in bytes, as the system reports it. -/
def size : Node → Nat
  | file _ content => content.length
  | directory _ => 4096
  | link target => target.length
  | device _ => 0

end Node

/-- A file system: its nodes other than the root, the directory in which relative paths start, and
the permission bits that new nodes never get. -/
structure FileSystem where
  nodes : List (Location × Node) := []
  current : Location := []
  umask : Nat := 0o022

namespace FileSystem

/-- The node at a location.  The root is always a directory. -/
def lookup (fs : FileSystem) (loc : Location) : Option Node :=
  if loc = [] then some (.directory 0o755) else fs.nodes.lookup loc

/-- Puts a node at a location, in place of the one that may stand there. -/
def put (fs : FileSystem) (loc : Location) (node : Node) : FileSystem :=
  { fs with nodes := (loc, node) :: fs.nodes.filter (·.1 != loc) }

/-- Takes the node at a location away. -/
def erase (fs : FileSystem) (loc : Location) : FileSystem :=
  { fs with nodes := fs.nodes.filter (·.1 != loc) }

/-- Takes the node at a location away, and every node below it. -/
def eraseTree (fs : FileSystem) (loc : Location) : FileSystem :=
  { fs with nodes := fs.nodes.filter fun (l, _) => !loc.isPrefixOf l }

/-- The names of the entries of a directory, in no particular order. -/
def names (fs : FileSystem) (loc : Location) : List Name :=
  fs.nodes.filterMap fun (l, _) => if l.dropLast = loc then l.getLast? else none

/-! ## The view after a change -/

@[simp] theorem lookup_root (fs : FileSystem) : fs.lookup [] = some (.directory 0o755) := rfl

private theorem lookup_filter_self (nodes : List (Location × Node)) (loc : Location) :
    (nodes.filter (·.1 != loc)).lookup loc = none := by
  simp only [List.lookup_eq_none_iff, List.mem_filter]
  intro entry he
  have : entry.1 ≠ loc := by simpa using he.2
  simpa using this.symm

private theorem lookup_filter_of (nodes : List (Location × Node)) (p : Location → Bool)
    (loc : Location) (h : p loc = true) :
    (nodes.filter fun e => p e.1).lookup loc = nodes.lookup loc := by
  induction nodes with
  | nil => rfl
  | cons entry nodes ih =>
    obtain ⟨l, node⟩ := entry
    by_cases hl : loc = l
    · subst hl; simp [h]
    · have hne : (loc == l) = false := by simpa using hl
      by_cases hp : p l = true
      · simp [hp, List.lookup_cons, hne, ih]
      · simp [hp, List.lookup_cons, hne, ih]

theorem lookup_put (fs : FileSystem) {loc : Location} (node : Node) (other : Location)
    (h : loc ≠ []) :
    (fs.put loc node).lookup other = if other = loc then some node else fs.lookup other := by
  by_cases ho : other = []
  · subst ho; simp [Ne.symm h]
  · by_cases hl : other = loc
    · subst hl; simp [lookup, put, ho]
    · have hne : (other == loc) = false := by simpa using hl
      have := lookup_filter_of fs.nodes (· != loc) other (by simpa using hl)
      simp [lookup, put, ho, hl, List.lookup_cons, hne, this]

theorem lookup_erase (fs : FileSystem) {loc : Location} (other : Location) (h : loc ≠ []) :
    (fs.erase loc).lookup other = if other = loc then none else fs.lookup other := by
  by_cases ho : other = []
  · subst ho; simp [Ne.symm h]
  · by_cases hl : other = loc
    · subst hl; simp [lookup, erase, ho, lookup_filter_self]
    · have := lookup_filter_of fs.nodes (· != loc) other (by simpa using hl)
      simp [lookup, erase, ho, hl, this]

theorem lookup_eraseTree (fs : FileSystem) {loc : Location} (other : Location) (h : loc ≠ []) :
    (fs.eraseTree loc).lookup other = if loc <+: other then none else fs.lookup other := by
  by_cases ho : other = []
  · subst ho; simp [h]
  · by_cases hl : loc.isPrefixOf other = true
    · have hp : loc <+: other := List.isPrefixOf_iff_prefix.1 hl
      simp only [lookup, eraseTree, ho, if_false, hp, if_true, List.lookup_eq_none_iff]
      intro entry he
      have hf : loc.isPrefixOf entry.1 = false := by simpa using (List.mem_filter.1 he).2
      rw [bne_iff_ne]
      intro heq
      rw [← heq, hl] at hf
      exact Bool.noConfusion hf
    · have hp : ¬ loc <+: other := fun h => hl (List.isPrefixOf_iff_prefix.2 h)
      have := lookup_filter_of fs.nodes (fun l => !loc.isPrefixOf l) other
        (by rw [Bool.not_eq_true', Bool.eq_false_iff]; exact hl)
      simp [lookup, eraseTree, ho, hp, this]

end FileSystem

end TestRig
