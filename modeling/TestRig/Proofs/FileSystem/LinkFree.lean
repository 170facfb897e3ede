/-
  TestRig.Proofs.FileSystem.LinkFree

  Following paths in a file system without symbolic links.  There the location that a
  path leads to is a matter of its text alone: `place` folds the names of the path
  over the location where it starts, and `locate` gives that place or refuses
  (`locate_eq_ok_iff`).  Whether it refuses depends only on which directories there
  are, so no change of files redirects a path (`Reaches.mono`).
-/
import TestRig.FileSystem.Access

namespace TestRig.FileSystem

/-- There are no symbolic links. -/
def LinkFree (fs : FileSystem) : Prop := ∀ loc target, fs.lookup loc ≠ some (.link target)

/-- There are files and directories alone: no symbolic links and no devices. -/
def Plain (fs : FileSystem) : Prop :=
  ∀ loc node, fs.lookup loc = some node → node.isFile = true ∨ node.isDirectory = true

/-- A directory stands at the location. -/
def HasDirectory (fs : FileSystem) (loc : Location) : Prop :=
  ∃ mode, fs.lookup loc = some (.directory mode)

theorem Plain.linkFree {fs : FileSystem} (h : fs.Plain) : fs.LinkFree := by
  intro loc target heq
  have := h loc _ heq
  simp [Node.isFile, Node.isDirectory] at this

/-- A list of nodes without links and devices makes a plain file system. -/
theorem plain_of_nodes {fs : FileSystem}
    (h : ∀ entry ∈ fs.nodes, entry.2.isFile = true ∨ entry.2.isDirectory = true) : fs.Plain := by
  intro loc node hnode
  rw [lookup] at hnode
  split at hnode
  · simp [← Option.some.inj hnode, Node.isDirectory]
  · obtain ⟨before, after, hnodes, -⟩ := List.lookup_eq_some_iff.1 hnode
    exact h (loc, node) (by simp [hnodes])

/-! ## Places -/

/-- Where one name of a path leads from a location. -/
def stepTo (loc : Location) (name : Name) : Location :=
  if name = here then loc else if name = above then loc.dropLast else loc ++ [name]

/-- Where a path starts. -/
def startOf (fs : FileSystem) (path : Bytes) : Location :=
  if path.head? = some slash then [] else fs.current

/-- The location that a path names, by its text alone. -/
def place (fs : FileSystem) (path : Bytes) : Location :=
  (stepsOf path).foldl stepTo (fs.startOf path)

@[simp] theorem stepTo_here (loc : Location) : stepTo loc here = loc := if_pos rfl

theorem stepTo_of_ne (loc : Location) {name : Name} (hhere : name ≠ here) (habove : name ≠ above) :
    stepTo loc name = loc ++ [name] := by
  rw [stepTo, if_neg hhere, if_neg habove]

theorem foldl_stepTo_here (loc : Location) {names : List Name} (h : ∀ name ∈ names, name = here) :
    names.foldl stepTo loc = loc := by
  induction names with
  | nil => rfl
  | cons name names ih =>
    rw [List.foldl_cons, h name (by simp), stepTo_here]
    exact ih fun other hother => h other (List.mem_cons_of_mem _ hother)

/-- A place depends on the file system only by the directory in which relative paths start. -/
theorem place_congr {fs fs' : FileSystem} (h : fs'.current = fs.current) (path : Bytes) :
    fs'.place path = fs.place path := by
  simp only [place, startOf, h]

/-! ## Following names -/

/-- The names can be followed from the location: each is looked up in a directory, and none is too
long. -/
def Passable (fs : FileSystem) : Location → List Name → Prop
  | _, [] => True
  | loc, name :: rest =>
    fs.HasDirectory loc ∧ (name = here ∨ name = above ∨ name.length ≤ 255) ∧
      fs.Passable (stepTo loc name) rest

/-- The path leads to a place, where something may stand or nothing. -/
def Reaches (fs : FileSystem) (path : Bytes) : Prop :=
  0 ∉ path ∧ path ≠ [] ∧ path.length < 4096 ∧
    fs.Passable (fs.startOf path) (stepsOf path)

theorem passable_append {fs : FileSystem} {loc : Location} {names more : List Name} :
    fs.Passable loc (names ++ more) ↔
      fs.Passable loc names ∧ fs.Passable (names.foldl stepTo loc) more := by
  induction names generalizing loc with
  | nil => simp [Passable]
  | cons name names ih => simp [Passable, ih, and_assoc]

theorem Passable.mono {fs fs' : FileSystem}
    (hdirs : ∀ loc, fs.HasDirectory loc → fs'.HasDirectory loc) {loc : Location}
    {names : List Name} (h : fs.Passable loc names) : fs'.Passable loc names := by
  induction names generalizing loc with
  | nil => trivial
  | cons name names ih => exact ⟨hdirs loc h.1, h.2.1, ih h.2.2⟩

/-- What a path reaches it still reaches while the directories stay. -/
theorem Reaches.mono {fs fs' : FileSystem} (hcurrent : fs'.current = fs.current)
    (hdirs : ∀ loc, fs.HasDirectory loc → fs'.HasDirectory loc) {path : Bytes}
    (h : fs.Reaches path) : fs'.Reaches path := by
  obtain ⟨hnul, hne, hlen, hpass⟩ := h
  refine ⟨hnul, hne, hlen, ?_⟩
  rw [show fs'.startOf path = fs.startOf path by simp only [startOf, hcurrent]]
  exact hpass.mono hdirs

/-- Without links one name is followed by one step. -/
theorem walk_cons {fs : FileSystem} (hlinks : fs.LinkFree) {last : LastLink} {links : Nat}
    {loc : Location} (hdir : fs.HasDirectory loc) {name : Name} (names : List Name)
    (hname : name = here ∨ name = above ∨ name.length ≤ 255) :
    fs.walk last links loc (name :: names) = fs.walk last links (stepTo loc name) names := by
  obtain ⟨mode, hmode⟩ := hdir
  rw [walk, hmode]
  by_cases hhere : name = here
  · simp [hhere]
  by_cases habove : name = above
  · simp only [stepTo, if_neg hhere, if_pos habove]
  have hlong : ¬ 255 < name.length := by simpa [hhere, habove] using hname
  simp only [hhere, habove, hlong, if_false, stepTo_of_ne loc hhere habove]
  split
  · exact absurd ‹_› (hlinks _ _)
  · rfl

/-- Without links names are followed to the place that they spell, or not at all. -/
theorem walk_eq_ok_iff {fs : FileSystem} (hlinks : fs.LinkFree) {last : LastLink} {links : Nat}
    {loc dest : Location} {names : List Name} :
    fs.walk last links loc names = .ok dest ↔
      fs.Passable loc names ∧ dest = names.foldl stepTo loc := by
  induction names generalizing loc with
  | nil => simp [walk, Passable, eq_comm]
  | cons name names ih =>
    rw [Passable, List.foldl_cons]
    by_cases hdir : fs.HasDirectory loc
    · by_cases hname : name = here ∨ name = above ∨ name.length ≤ 255
      · rw [walk_cons hlinks hdir names hname, ih]
        simp [hdir, hname]
      · obtain ⟨mode, hmode⟩ := hdir
        obtain ⟨hhere, habove, hlong⟩ := by simpa only [not_or] using hname
        rw [walk, hmode]
        simp [hhere, habove, hlong, Nat.lt_of_not_le hlong]
    · have hwalk : fs.walk last links loc (name :: names) ≠ .ok dest := by
        intro h
        rw [walk] at h
        split at h
        · exact hdir ⟨_, ‹_›⟩
        · cases h
        · cases h
      simp [hwalk, hdir]

/-- Without links a path leads to its place, or nowhere. -/
theorem locate_eq_ok_iff {fs : FileSystem} (hlinks : fs.LinkFree) {path : Bytes} {last : LastLink}
    {loc : Location} : fs.locate path last = .ok loc ↔ fs.Reaches path ∧ loc = fs.place path := by
  unfold locate Reaches
  by_cases hnul : 0 ∈ path
  · simp [hnul]
  by_cases hne : path = []
  · simp [hne]
  by_cases hlen : 4096 ≤ path.length
  · simp [hnul, hne, hlen, Nat.not_lt_of_le hlen]
  have hpath : fs.locate path last = fs.walk last linkLimit (fs.startOf path) (stepsOf path) := by
    simp [locate, startOf, hnul, hne, hlen]
  rw [← locate, hpath, walk_eq_ok_iff hlinks, place]
  simp [hnul, hne, Nat.lt_of_not_le hlen]

/-- Without links the node that a path leads to is the one at its place. -/
theorem find_eq_ok_iff {fs : FileSystem} (hlinks : fs.LinkFree) {path : Bytes} {last : LastLink}
    {loc : Location} {node : Node} : fs.find path last = .ok (loc, node) ↔
      fs.Reaches path ∧ loc = fs.place path ∧ fs.lookup loc = some node := by
  unfold find
  cases hlocate : fs.locate path last with
  | error e =>
    have hreach : ¬ fs.Reaches path := fun hreach => by
      have hplace : fs.locate path last = .ok (fs.place path) :=
        (locate_eq_ok_iff hlinks).2 ⟨hreach, rfl⟩
      simp [hlocate] at hplace
    simp [bind, Except.bind, hreach]
  | ok dest =>
    obtain ⟨hreach, rfl⟩ := (locate_eq_ok_iff hlinks).1 hlocate
    simp only [bind, Except.bind, hreach, true_and]
    constructor
    · intro h
      split at h
      · obtain ⟨rfl, rfl⟩ : fs.place path = loc ∧ _ = node := by simpa using h
        exact ⟨rfl, ‹_›⟩
      · cases h
    · rintro ⟨rfl, hnode⟩
      rw [hnode]

end TestRig.FileSystem
