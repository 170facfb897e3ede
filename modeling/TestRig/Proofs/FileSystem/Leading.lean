/-
  TestRig.Proofs.FileSystem.Leading

  Where paths lead in a file system with symbolic links, while files are written.  That
  depends on the directories and links along a path (`walk_mono`), so file systems that
  differ in files alone lead it alike (`SameButFiles.locate_eq_ok_iff`).  What is read from
  a path is what stands where it leads (`read_congr`).
-/
import TestRig.Proofs.FileSystem.Following
import TestRig.Proofs.FileSystem.Writing

namespace TestRig.FileSystem

variable {fs fs' : FileSystem}

/-! ## Following -/

/-- Names lead where they led, when no directory has gone and the links are the same. -/
theorem walk_mono (hdirs : ∀ loc, fs.HasDirectory loc → fs'.HasDirectory loc)
    (hlinks : ∀ loc target,
      fs'.lookup loc = some (.link target) ↔ fs.lookup loc = some (.link target))
    {last : LastLink} {links : Nat} {loc dest : Location} {names : List Name}
    (hwalk : fs.walk last links loc names = .ok dest) :
    fs'.walk last links loc names = .ok dest := by
  -- along the steps that were taken before
  fun_induction fs.walk last links loc names with
  | case1 => rwa [FileSystem.walk]
  | case2 _ _ _ _ hdir ih => rw [walk_here (hdirs _ ⟨_, hdir⟩), ih hwalk]
  | case3 _ _ _ _ hdir _ ih => rw [walk_above (hdirs _ ⟨_, hdir⟩), ih hwalk]
  | case4 => cases hwalk
  | case5 links loc name rest _ hdir hhere habove hlong next target hlink hlast =>
    obtain ⟨hrest, rfl⟩ : rest = [] ∧ last = .keep := by simpa using hlast
    obtain rfl := Except.ok.inj hwalk
    rw [hrest, walk_keep (hdirs _ ⟨_, hdir⟩) ⟨hhere, habove, Nat.not_lt.1 hlong⟩
      ((hlinks _ _).2 hlink)]
  | case6 => cases hwalk
  | case7 loc name rest _ hdir hhere habove hlong next target hlink hlast links start ih =>
    rw [walk_follow (hdirs _ ⟨_, hdir⟩) ⟨hhere, habove, Nat.not_lt.1 hlong⟩
      ((hlinks _ _).2 hlink) (by simpa using hlast)]
    exact ih hwalk
  | case8 links loc name rest _ hdir hhere habove hlong next hlink ih =>
    rw [walk_enter (hdirs _ ⟨_, hdir⟩) ⟨hhere, habove, Nat.not_lt.1 hlong⟩
      fun target h => hlink target ((hlinks _ _).1 h)]
    exact ih hwalk
  | case9 => cases hwalk
  | case10 => cases hwalk

/-- The location to which a path leads, through symbolic links. -/
def leads? (fs : FileSystem) (path : Bytes) : Option Location := (fs.locate path .follow).toOption

theorem leads?_eq_some_iff {path : Bytes} {loc : Location} :
    fs.leads? path = some loc ↔ fs.locate path .follow = .ok loc := by
  unfold leads?
  cases fs.locate path .follow <;> simp [Except.toOption]

namespace SameButFiles

theorem locate_eq_ok (h : SameButFiles fs fs') {path : Bytes} {last : LastLink} {loc : Location}
    (hlocate : fs.locate path last = .ok loc) : fs'.locate path last = .ok loc := by
  have hstart : fs'.startOf path = fs.startOf path := by
    unfold startOf
    rw [h.current_eq]
  rw [locate_eq_ok_iff_walk] at hlocate ⊢
  rw [hstart]
  refine ⟨hlocate.1, walk_mono (fun _ => h.hasDirectory) (fun _ _ => ?_) hlocate.2⟩
  exact ⟨h.symm.lookup_of_eq_some rfl, h.lookup_of_eq_some rfl⟩

/-- Every path leads to the same location in both. -/
theorem locate_eq_ok_iff (h : SameButFiles fs fs') {path : Bytes} {last : LastLink}
    {loc : Location} : fs'.locate path last = .ok loc ↔ fs.locate path last = .ok loc :=
  ⟨h.symm.locate_eq_ok, h.locate_eq_ok⟩

theorem leads?_eq (h : SameButFiles fs fs') (path : Bytes) : fs'.leads? path = fs.leads? path :=
  Option.ext fun loc => by rw [leads?_eq_some_iff, leads?_eq_some_iff, h.locate_eq_ok_iff]

end SameButFiles

namespace FilesChanged

variable {touched : Location → Prop}

/-- While files are written every path goes on leading to the same location. -/
theorem locate_eq_ok_iff (h : FilesChanged touched fs fs') {path : Bytes} {last : LastLink}
    {loc : Location} : fs'.locate path last = .ok loc ↔ fs.locate path last = .ok loc :=
  h.sameButFiles.locate_eq_ok_iff

theorem leads?_eq (h : FilesChanged touched fs fs') (path : Bytes) :
    fs'.leads? path = fs.leads? path :=
  h.sameButFiles.leads?_eq path

/-- The same paths can be opened for writing. -/
theorem exists_openForWriting_iff (h : FilesChanged touched fs fs') {path : Bytes}
    (hslash : path.getLast? ≠ some slash) (mode : Nat) :
    (∃ r, fs'.openForWriting path true mode = .ok r) ↔
      ∃ r, fs.openForWriting path true mode = .ok r := by
  rw [exists_openForWriting_iff_locate hslash, exists_openForWriting_iff_locate hslash]
  simp only [h.locate_eq_ok_iff, h.hasDirectory_iff]

theorem free_iff (h : FilesChanged touched fs fs') {loc : Location} :
    fs'.Free loc ↔ fs.Free loc :=
  ⟨h.sameButFiles.symm.free, h.sameButFiles.free⟩

/-- What is no file is left as it is. -/
theorem lookup_eq_of_not_free (h : FilesChanged touched fs fs') {loc : Location}
    (hfree : ¬ fs.Free loc) : fs'.lookup loc = fs.lookup loc :=
  (h.file loc).resolve_right fun hfile => hfree hfile.1

end FilesChanged

/-- A file stands at the location, or a directory, or nothing: no link and no device. -/
def PlainAt (fs : FileSystem) (loc : Location) : Prop :=
  ∀ node, fs.lookup loc = some node → node.isFile = true ∨ node.isDirectory = true

/-- A file may be put at a plain location where no directory stands. -/
theorem PlainAt.free {loc : Location} (h : fs.PlainAt loc) (hdir : ¬ fs.HasDirectory loc) :
    fs.Free loc := by
  refine free_of_not_hasDirectory hdir (fun target hlink => ?_) (fun device hdevice => ?_)
  · simpa [Node.isFile, Node.isDirectory] using h _ hlink
  · simpa [Node.isFile, Node.isDirectory] using h _ hdevice

theorem Free.plainAt {loc : Location} (h : fs.Free loc) : fs.PlainAt loc := by
  intro node hnode
  rcases h with hnone | ⟨mode, content, hfile⟩
  · rw [hnone] at hnode
    cases hnode
  · obtain rfl := Option.some.inj (hfile.symm.trans hnode)
    exact .inl rfl

/-! ## Reading -/

/-- The file to which a path leads is read whole. -/
theorem read_of_fileAt {path content : Bytes} {loc : Location}
    (hlocate : fs.locate path .follow = .ok loc) (hcontent : fs.fileAt loc = some content) :
    fs.read path = .ok content := by
  obtain ⟨mode, hnode⟩ := fileAt_eq_some_iff.1 hcontent
  rw [read, find_eq_ok_iff_locate.2 ⟨hlocate, hnode⟩]
  rfl

/-- Paths that lead to the same thing are read alike. -/
theorem read_congr {path path' : Bytes} {loc loc' : Location}
    (hlocate : fs.locate path .follow = .ok loc) (hlocate' : fs'.locate path' .follow = .ok loc')
    (hnode : fs'.lookup loc' = fs.lookup loc) : fs'.read path' = fs.read path := by
  unfold read find
  rw [hlocate, hlocate']
  simp only [bind, Except.bind, hnode]
  cases fs.lookup loc with
  | none => rfl
  | some node =>
    cases node with
    | device device => cases device <;> rfl
    | file mode content => rfl
    | directory mode => rfl
    | link target => rfl

end TestRig.FileSystem
