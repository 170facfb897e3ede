/-
  TestRig.Proofs.FileSystem.Writing

  What opening, writing and copying files does to a file system without links.  Each
  changes files alone (`FilesChanged`): directories, links and devices stay, so every
  path keeps its place and what it reaches.
-/
import Mathlib.Logic.Basic
import TestRig.Proofs.FileSystem.LinkFree

namespace TestRig.FileSystem

variable {fs fs' fs'' : FileSystem}

/-! ## Contents -/

/-- The content of the file at a location. -/
def fileAt (fs : FileSystem) (loc : Location) : Option Bytes :=
  match fs.lookup loc with
  | some (.file _ content) => some content
  | _ => none

/-- The content of the file at the place of a path. -/
def content? (fs : FileSystem) (path : Bytes) : Option Bytes := fs.fileAt (fs.place path)

theorem fileAt_eq_some_iff {loc : Location} {content : Bytes} :
    fs.fileAt loc = some content ↔ ∃ mode, fs.lookup loc = some (.file mode content) := by
  unfold fileAt
  split <;> simp_all

theorem fileAt_congr {loc : Location} (h : fs'.lookup loc = fs.lookup loc) :
    fs'.fileAt loc = fs.fileAt loc := by
  unfold fileAt
  rw [h]

/-- What a path reaches and finds to be a file is read whole. -/
theorem read_of_content? (hlinks : fs.LinkFree) {path content : Bytes} (hreach : fs.Reaches path)
    (h : fs.content? path = some content) : fs.read path = .ok content := by
  obtain ⟨mode, hnode⟩ := fileAt_eq_some_iff.1 h
  have hfind : fs.find path .follow = .ok (fs.place path, .file mode content) :=
    (find_eq_ok_iff hlinks).2 ⟨hreach, rfl, hnode⟩
  rw [read, hfind]
  rfl

/-- In a plain file system what is read is the content of a file at the place of the path. -/
theorem content?_of_read (hplain : fs.Plain) {path content : Bytes}
    (h : fs.read path = .ok content) : fs.content? path = some content := by
  unfold read at h
  cases hfind : fs.find path .follow with
  | error e => simp [hfind, bind, Except.bind] at h
  | ok found =>
    obtain ⟨loc, node⟩ := found
    obtain ⟨-, rfl, hnode⟩ := (find_eq_ok_iff hplain.linkFree).1 hfind
    simp only [hfind, bind, Except.bind] at h
    rw [content?, fileAt_eq_some_iff]
    cases node with
    | file mode bytes => exact ⟨mode, by rw [hnode, Except.ok.inj h]⟩
    | directory mode => cases h
    | link target => cases h
    | device device => exact absurd (hplain _ _ hnode) (by simp [Node.isFile, Node.isDirectory])

/-! ## Changes of files -/

/-- A file may be put at the location: a file stands there, or nothing. -/
def Free (fs : FileSystem) (loc : Location) : Prop :=
  fs.lookup loc = none ∨ ∃ mode content, fs.lookup loc = some (.file mode content)

theorem free_congr {loc loc' : Location} (h : fs'.lookup loc' = fs.lookup loc) :
    fs'.Free loc' ↔ fs.Free loc := by
  unfold Free
  rw [h]

/-- The file systems differ in files alone: directories, links and devices stand at the same
locations. -/
structure SameButFiles (fs fs' : FileSystem) : Prop where
  current_eq : fs'.current = fs.current
  file : ∀ loc, fs'.lookup loc = fs.lookup loc ∨ fs.Free loc ∧ fs'.Free loc

namespace SameButFiles

theorem refl (fs : FileSystem) : SameButFiles fs fs := ⟨rfl, fun _ => .inl rfl⟩

theorem symm (h : SameButFiles fs fs') : SameButFiles fs' fs :=
  ⟨h.current_eq.symm, fun loc => (h.file loc).imp Eq.symm And.symm⟩

/-- What is not a file stands in the one where it stands in the other. -/
theorem lookup_of_eq_some (h : SameButFiles fs fs') {loc : Location} {node : Node}
    (hnode : node.isFile = false) (hlookup : fs.lookup loc = some node) :
    fs'.lookup loc = some node := by
  rcases h.file loc with heq | ⟨hnone | ⟨mode, content, hfile⟩, -⟩
  · rw [heq, hlookup]
  · rw [hnone] at hlookup
    cases hlookup
  · obtain rfl := Option.some.inj (hfile.symm.trans hlookup)
    simp [Node.isFile] at hnode

theorem hasDirectory (h : SameButFiles fs fs') {loc : Location} (hdir : fs.HasDirectory loc) :
    fs'.HasDirectory loc := by
  obtain ⟨mode, hmode⟩ := hdir
  exact ⟨mode, h.lookup_of_eq_some rfl hmode⟩

theorem free (h : SameButFiles fs fs') {loc : Location} (hfree : fs.Free loc) : fs'.Free loc := by
  rcases h.file loc with heq | ⟨-, hfree'⟩
  · exact (free_congr heq).2 hfree
  · exact hfree'

end SameButFiles

/-- Nothing has changed but files at touched locations, which may be new or have got another
content or mode. -/
structure FilesChanged (touched : Location → Prop) (before after : FileSystem) : Prop where
  current_eq : after.current = before.current
  lookup_eq : ∀ loc, ¬ touched loc → after.lookup loc = before.lookup loc
  file : ∀ loc, after.lookup loc = before.lookup loc ∨
    before.Free loc ∧ ∃ mode content, after.lookup loc = some (.file mode content)

namespace FilesChanged

variable {touched : Location → Prop}

theorem refl (touched : Location → Prop) (fs : FileSystem) : FilesChanged touched fs fs :=
  ⟨rfl, fun _ _ => rfl, fun _ => .inl rfl⟩

theorem trans (h : FilesChanged touched fs fs') (h' : FilesChanged touched fs' fs'') :
    FilesChanged touched fs fs'' := by
  refine ⟨h'.current_eq.trans h.current_eq, ?_, ?_⟩
  · intro loc hloc
    rw [h'.lookup_eq loc hloc, h.lookup_eq loc hloc]
  · intro loc
    rcases h.file loc with heq | ⟨hfree, hfile⟩
    · rcases h'.file loc with heq' | ⟨hfree', hfile'⟩
      · exact .inl (heq'.trans heq)
      · exact .inr ⟨(free_congr heq).1 hfree', hfile'⟩
    · rcases h'.file loc with heq' | ⟨-, hfile'⟩
      · exact .inr ⟨hfree, by rwa [heq']⟩
      · exact .inr ⟨hfree, hfile'⟩

theorem mono {touched' : Location → Prop} (hsub : ∀ loc, touched loc → touched' loc)
    (h : FilesChanged touched fs fs') : FilesChanged touched' fs fs' :=
  ⟨h.current_eq, fun loc hloc => h.lookup_eq loc fun hin => hloc (hsub loc hin), h.file⟩

/-- The file systems before and after differ in files alone. -/
theorem sameButFiles (h : FilesChanged touched fs fs') : SameButFiles fs fs' :=
  ⟨h.current_eq, fun loc => (h.file loc).imp_right fun ⟨hfree, hfile⟩ => ⟨hfree, .inr hfile⟩⟩

/-- What is not a file stands after the change exactly where it stood before. -/
theorem lookup_iff (h : FilesChanged touched fs fs') {loc : Location} {node : Node}
    (hnode : node.isFile = false) : fs'.lookup loc = some node ↔ fs.lookup loc = some node :=
  ⟨h.sameButFiles.symm.lookup_of_eq_some hnode, h.sameButFiles.lookup_of_eq_some hnode⟩

theorem hasDirectory_iff (h : FilesChanged touched fs fs') {loc : Location} :
    fs'.HasDirectory loc ↔ fs.HasDirectory loc :=
  exists_congr fun _ => h.lookup_iff rfl

theorem linkFree (h : FilesChanged touched fs fs') (hlinks : fs.LinkFree) : fs'.LinkFree :=
  fun loc target hlink => hlinks loc target ((h.lookup_iff rfl).1 hlink)

theorem plain (h : FilesChanged touched fs fs') (hplain : fs.Plain) : fs'.Plain := by
  intro loc node hnode
  cases hfile : node.isFile with
  | true => exact .inl rfl
  | false => simpa [hfile] using hplain loc node ((h.lookup_iff hfile).1 hnode)

theorem place_eq (h : FilesChanged touched fs fs') (path : Bytes) :
    fs'.place path = fs.place path :=
  place_congr h.current_eq path

theorem reaches_iff (h : FilesChanged touched fs fs') {path : Bytes} :
    fs'.Reaches path ↔ fs.Reaches path :=
  ⟨Reaches.mono h.current_eq.symm fun _ => h.hasDirectory_iff.1,
    Reaches.mono h.current_eq fun _ => h.hasDirectory_iff.2⟩

/-- No file goes away. -/
theorem isSome_fileAt (h : FilesChanged touched fs fs') {loc : Location}
    (hsome : (fs.fileAt loc).isSome = true) : (fs'.fileAt loc).isSome = true := by
  rcases h.file loc with heq | ⟨-, mode, content, hfile⟩
  · rwa [fileAt_congr heq]
  · rw [fileAt_eq_some_iff.2 ⟨mode, hfile⟩]
    rfl

end FilesChanged

/-- Putting a file where one may be put changes that location alone. -/
theorem filesChanged_put {loc : Location} (hroot : loc ≠ []) (hfree : fs.Free loc) (mode : Nat)
    (content : Bytes) : FilesChanged (· = loc) fs (fs.put loc (.file mode content)) := by
  refine ⟨rfl, ?_, ?_⟩
  · intro other hother
    rw [lookup_put fs _ other hroot, if_neg hother]
  · intro other
    rw [lookup_put fs _ other hroot]
    split
    · rename_i heq
      exact .inr ⟨heq ▸ hfree, mode, content, rfl⟩
    · exact .inl rfl

/-! ## Opening for writing -/

/-- The path can be opened for writing: it is reached and no directory stands at its place. -/
def Writable (fs : FileSystem) (path : Bytes) : Prop :=
  fs.Reaches path ∧ ¬ fs.HasDirectory (fs.place path)

/-- No device stands at the place of the path. -/
def DeviceFree (fs : FileSystem) (path : Bytes) : Prop :=
  ∀ device, fs.lookup (fs.place path) ≠ some (.device device)

theorem Plain.deviceFree (h : fs.Plain) (path : Bytes) : fs.DeviceFree path := by
  intro device hdevice
  have := h _ _ hdevice
  simp [Node.isFile, Node.isDirectory] at this

theorem FilesChanged.writable_iff {touched : Location → Prop} (h : FilesChanged touched fs fs')
    {path : Bytes} : fs'.Writable path ↔ fs.Writable path := by
  unfold Writable
  rw [h.reaches_iff, h.place_eq, h.hasDirectory_iff]

theorem FilesChanged.deviceFree_iff {touched : Location → Prop} (h : FilesChanged touched fs fs')
    {path : Bytes} : fs'.DeviceFree path ↔ fs.DeviceFree path := by
  unfold DeviceFree
  rw [h.place_eq]
  exact forall_congr' fun device => not_congr (h.lookup_iff rfl)

theorem ne_root_of_not_hasDirectory {loc : Location} (h : ¬ fs.HasDirectory loc) : loc ≠ [] := by
  rintro rfl
  exact h ⟨_, lookup_root fs⟩

/-- Paths that lead to no directory have no slash at their end. -/
theorem getLast?_ne_slash {path : Bytes} (hreach : fs.Reaches path)
    (hdir : ¬ fs.HasDirectory (fs.place path)) : path.getLast? ≠ some slash := by
  intro hslash
  obtain ⟨-, -, -, hpass⟩ := hreach
  have hsteps : stepsOf path = (Text.splitAt slash path).filter (!·.isEmpty) ++ [here] := by
    unfold stepsOf
    exact if_pos hslash
  rw [hsteps, passable_append] at hpass
  apply hdir
  rw [place, hsteps, List.foldl_append, List.foldl_cons, stepTo_here, List.foldl_nil]
  exact hpass.2.1

theorem withoutSlashes_eq_self {path : Bytes} (h : path.getLast? ≠ some slash) :
    withoutSlashes path = path := by
  have hdrop : path.reverse.dropWhile (· = slash) = path.reverse := by
    cases hrev : path.reverse with
    | nil => rfl
    | cons last front =>
      have hlast : last ≠ slash := by
        intro heq
        apply h
        rw [← List.head?_reverse, hrev, heq]
        rfl
      rw [List.dropWhile_cons_of_neg (by simpa using hlast)]
  unfold withoutSlashes
  simp only [hdrop, List.reverse_reverse]
  split
  · rfl
  · rfl

/-- A file may be put at a location that holds no directory, no link and no device. -/
theorem free_of_not_hasDirectory {loc : Location} (hdir : ¬ fs.HasDirectory loc)
    (hlink : ∀ target, fs.lookup loc ≠ some (.link target))
    (hdevice : ∀ device, fs.lookup loc ≠ some (.device device)) : fs.Free loc := by
  cases hnode : fs.lookup loc with
  | none => exact .inl hnode
  | some node =>
    cases node with
    | file mode content => exact .inr ⟨mode, content, hnode⟩
    | directory mode => exact absurd ⟨mode, hnode⟩ hdir
    | link target => exact absurd hnode (hlink target)
    | device device => exact absurd hnode (hdevice device)

/-- Opening for writing leads where the path leads, where no directory stands, and leaves an empty
file there if a file may be put there, or else what stands there as it is. -/
theorem openForWriting_cases {path : Bytes} {mode : Nat} {loc : Location}
    (h : fs.openForWriting path true mode = .ok (loc, fs')) :
    fs.locate path .follow = .ok loc ∧ ¬ fs.HasDirectory loc ∧
      (fs.Free loc ∧ (∃ m, fs' = fs.put loc (.file m [])) ∨ ¬ fs.Free loc ∧ fs' = fs) := by
  unfold openForWriting at h
  simp only [bind, Except.bind, if_true] at h
  obtain ⟨-, h⟩ | ⟨-, h⟩ := ite_eq_iff.1 h
  · cases h
  cases hlocate : fs.locate path .follow with
  | error e => simp [hlocate] at h
  | ok dest =>
    simp only [hlocate] at h
    cases hnode : fs.lookup dest with
    | none =>
      obtain ⟨rfl, rfl⟩ : dest = loc ∧ _ = fs' := by simpa [hnode] using h
      exact ⟨rfl, by simp [HasDirectory, hnode], .inl ⟨.inl hnode, _, rfl⟩⟩
    | some node =>
      cases node with
      | file m content =>
        obtain ⟨rfl, rfl⟩ : dest = loc ∧ _ = fs' := by simpa [hnode] using h
        exact ⟨rfl, by simp [HasDirectory, hnode], .inl ⟨.inr ⟨m, content, hnode⟩, m, rfl⟩⟩
      | directory m => simp [hnode] at h
      | link target =>
        obtain ⟨rfl, rfl⟩ : dest = loc ∧ fs = fs' := by simpa [hnode] using h
        exact ⟨rfl, by simp [HasDirectory, hnode], .inr ⟨by simp [Free, hnode], rfl⟩⟩
      | device device =>
        obtain ⟨rfl, rfl⟩ : dest = loc ∧ fs = fs' := by simpa [hnode] using h
        exact ⟨rfl, by simp [HasDirectory, hnode], .inr ⟨by simp [Free, hnode], rfl⟩⟩

/-- Without links that is the place of the path. -/
theorem openForWriting_eq_ok (hlinks : fs.LinkFree) {path : Bytes} {mode : Nat} {loc : Location}
    (h : fs.openForWriting path true mode = .ok (loc, fs')) :
    fs.Reaches path ∧ loc = fs.place path ∧ ¬ fs.HasDirectory loc := by
  obtain ⟨hlocate, hdir, -⟩ := openForWriting_cases h
  obtain ⟨hreach, hplace⟩ := (locate_eq_ok_iff hlinks).1 hlocate
  exact ⟨hreach, hplace, hdir⟩

/-- A path without a slash at its end is opened for writing exactly if it leads to where no directory
stands. -/
theorem exists_openForWriting_iff_locate {path : Bytes} (hslash : path.getLast? ≠ some slash)
    (mode : Nat) : (∃ r, fs.openForWriting path true mode = .ok r) ↔
      ∃ loc, fs.locate path .follow = .ok loc ∧ ¬ fs.HasDirectory loc := by
  constructor
  · rintro ⟨⟨loc, fs'⟩, h⟩
    obtain ⟨hlocate, hdir, -⟩ := openForWriting_cases h
    exact ⟨loc, hlocate, hdir⟩
  · rintro ⟨loc, hlocate, hdir⟩
    have hbare := withoutSlashes_eq_self hslash
    unfold openForWriting
    simp only [hbare, hlocate, bind, Except.bind, bne_self_eq_false, Bool.false_and]
    rw [if_neg (by simp)]
    split
    · exact absurd ⟨_, ‹_›⟩ hdir
    all_goals exact ⟨_, rfl⟩

/-- Without links that is a place that is reached and holds no directory. -/
theorem exists_openForWriting_iff (hlinks : fs.LinkFree) {path : Bytes} (mode : Nat) :
    (∃ r, fs.openForWriting path true mode = .ok r) ↔ fs.Writable path := by
  constructor
  · rintro ⟨⟨loc, fs'⟩, h⟩
    obtain ⟨hreach, rfl, hdir⟩ := openForWriting_eq_ok hlinks h
    exact ⟨hreach, hdir⟩
  · rintro ⟨hreach, hdir⟩
    exact (exists_openForWriting_iff_locate (getLast?_ne_slash hreach hdir) mode).2
      ⟨_, (locate_eq_ok_iff hlinks).2 ⟨hreach, rfl⟩, hdir⟩

/-- Opening for writing changes at most the file to which the path leads. -/
theorem filesChanged_openForWriting {path : Bytes} {mode : Nat} {loc : Location}
    (h : fs.openForWriting path true mode = .ok (loc, fs')) : FilesChanged (· = loc) fs fs' := by
  obtain ⟨-, hdir, ⟨hfree, m, rfl⟩ | ⟨-, rfl⟩⟩ := openForWriting_cases h
  · exact filesChanged_put (ne_root_of_not_hasDirectory hdir) hfree m []
  · exact .refl _ _

/-- What was opened for writing is an empty file, if a file may be put there. -/
theorem fileAt_openForWriting {path : Bytes} {mode : Nat} {loc : Location}
    (h : fs.openForWriting path true mode = .ok (loc, fs')) (hfree : fs.Free loc) :
    fs'.fileAt loc = some [] := by
  obtain ⟨-, hdir, ⟨-, m, rfl⟩ | ⟨hnot, -⟩⟩ := openForWriting_cases h
  · rw [fileAt_eq_some_iff]
    exact ⟨m, by rw [lookup_put fs _ _ (ne_root_of_not_hasDirectory hdir), if_pos rfl]⟩
  · exact absurd hfree hnot

/-! ## Reading and writing open files -/

/-- Writing changes at most the file that is open. -/
theorem filesChanged_setContent (fs : FileSystem) (loc : Location) (content : Bytes) :
    FilesChanged (· = loc) fs (fs.setContent loc content) := by
  unfold setContent
  split
  · rename_i mode old hnode
    refine filesChanged_put ?_ (.inr ⟨mode, old, hnode⟩) mode content
    rintro rfl
    simp at hnode
  · exact .refl _ _

theorem fileAt_setContent {loc : Location} {old : Bytes} (h : fs.fileAt loc = some old)
    (content : Bytes) : (fs.setContent loc content).fileAt loc = some content := by
  obtain ⟨mode, hnode⟩ := fileAt_eq_some_iff.1 h
  have hroot : loc ≠ [] := by
    rintro rfl
    simp at hnode
  unfold setContent
  rw [hnode, fileAt_eq_some_iff]
  exact ⟨mode, by rw [lookup_put fs _ loc hroot, if_pos rfl]⟩

/-- An open file is read from the offset on, as far as it goes. -/
theorem readAt_of_fileAt {loc : Location} {content : Bytes} (h : fs.fileAt loc = some content)
    (offset count : Nat) : fs.readAt loc offset count = .ok ((content.drop offset).take count) := by
  obtain ⟨mode, hnode⟩ := fileAt_eq_some_iff.1 h
  unfold readAt
  split
  · rename_i hzero
    rw [hzero, List.take_zero]
  · rw [hnode]

/-! ## Copying -/

/-- A copy changes at most the file at its destination. -/
theorem filesChanged_copy (hlinks : fs.LinkFree) {source target : Bytes}
    (h : fs.copy source target = .ok fs') : FilesChanged (· = fs.place target) fs fs' := by
  unfold copy at h
  cases hfind : fs.find source .follow with
  | error e => simp [hfind, bind, Except.bind] at h
  | ok found =>
    obtain ⟨loc, node⟩ := found
    cases node with
    | directory m => simp [hfind, bind, Except.bind] at h
    | link text => simp [hfind, bind, Except.bind] at h
    | device d => simp [hfind, bind, Except.bind] at h
    | file mode content =>
      simp only [hfind, bind, Except.bind] at h
      cases hopen : fs.openForWriting target true mode with
      | error e => simp [hopen] at h
      | ok opened =>
        obtain ⟨dest, fs₁⟩ := opened
        obtain ⟨-, rfl, hdir⟩ := openForWriting_eq_ok hlinks hopen
        have hopened := filesChanged_openForWriting hopen
        simp only [hopen] at h
        split at h
        · rename_i m old hnode
          obtain rfl := Except.ok.inj h
          exact hopened.trans (filesChanged_put (ne_root_of_not_hasDirectory hdir)
            (.inr ⟨m, old, hnode⟩) mode _)
        · obtain rfl := Except.ok.inj h
          exact hopened

/-- A copy changes at most the file at its destination, which gets the content of the source unless
it is the source: then it is left empty. -/
theorem copy_eq_ok (hlinks : fs.LinkFree) {source target : Bytes}
    (hdevice : fs.DeviceFree target)
    (h : fs.copy source target = .ok fs') :
    fs.Reaches source ∧ fs.Reaches target ∧ FilesChanged (· = fs.place target) fs fs' ∧
      ∃ content, fs.content? source = some content ∧
        fs'.content? target = some (if fs.place source = fs.place target then [] else content) := by
  have hchanged := filesChanged_copy hlinks h
  unfold copy at h
  cases hfind : fs.find source .follow with
  | error e => simp [hfind, bind, Except.bind] at h
  | ok found =>
    obtain ⟨loc, node⟩ := found
    obtain ⟨hsource, rfl, hnode⟩ := (find_eq_ok_iff hlinks).1 hfind
    cases node with
    | directory m => simp [hfind, bind, Except.bind] at h
    | link text => simp [hfind, bind, Except.bind] at h
    | device d => simp [hfind, bind, Except.bind] at h
    | file mode content =>
      simp only [hfind, bind, Except.bind] at h
      cases hopen : fs.openForWriting target true mode with
      | error e => simp [hopen] at h
      | ok opened =>
        obtain ⟨dest, fs₁⟩ := opened
        obtain ⟨htarget, rfl, hdir⟩ := openForWriting_eq_ok hlinks hopen
        have hfree := free_of_not_hasDirectory hdir (hlinks _) hdevice
        obtain ⟨-, -, ⟨-, m, rfl⟩ | ⟨hnot, -⟩⟩ := openForWriting_cases hopen
        · have hroot := ne_root_of_not_hasDirectory hdir
          have hempty : (fs.put (fs.place target) (.file m [])).lookup (fs.place target) =
              some (.file m []) := by rw [lookup_put fs _ _ hroot, if_pos rfl]
          simp only [hopen, hempty, Except.ok.injEq] at h
          subst h
          refine ⟨hsource, htarget, hchanged, content, fileAt_eq_some_iff.2 ⟨mode, hnode⟩, ?_⟩
          refine fileAt_eq_some_iff.2 ⟨mode, ?_⟩
          change FileSystem.lookup _ (fs.place target) = _
          rw [lookup_put _ _ _ hroot, if_pos rfl, contentAt, lookup_put fs _ _ hroot]
          -- the source is read after the destination was emptied
          by_cases hsame : fs.place source = fs.place target
          · rw [if_pos hsame, if_pos hsame]
          · rw [if_neg hsame, if_neg hsame, hnode]
        · exact absurd hfree hnot

/-! ## New directories -/

/-- A directory is made where nothing stands. -/
theorem makeDirectory_eq_ok {path : Bytes} {mode : Nat} (h : fs.makeDirectory path mode = .ok fs') :
    ∃ loc m, loc ≠ [] ∧ fs.lookup loc = none ∧ fs' = fs.put loc (.directory m) := by
  unfold makeDirectory at h
  cases hlocate : fs.locate (withoutSlashes path) .keep with
  | error e => simp [hlocate, bind, Except.bind] at h
  | ok loc =>
    simp only [hlocate, bind, Except.bind] at h
    cases hnode : fs.lookup loc with
    | some node => simp [hnode] at h
    | none =>
      obtain rfl : fs.put loc (.directory (fs.maskMode mode)) = fs' := by simpa [hnode] using h
      refine ⟨loc, fs.maskMode mode, ?_, hnode, rfl⟩
      rintro rfl
      simp at hnode

theorem LinkFree.put_directory (hlinks : fs.LinkFree) {loc : Location} (hroot : loc ≠ [])
    (mode : Nat) : (fs.put loc (.directory mode)).LinkFree := by
  intro other target hother
  rw [lookup_put fs _ other hroot] at hother
  split at hother
  · cases hother
  · exact hlinks other target hother

theorem Plain.put_directory (hplain : fs.Plain) {loc : Location} (hroot : loc ≠ []) (mode : Nat) :
    (fs.put loc (.directory mode)).Plain := by
  intro other node hother
  rw [lookup_put fs _ other hroot] at hother
  split at hother
  · obtain rfl := Option.some.inj hother
    exact .inr rfl
  · exact hplain other node hother

/-- A directory put where nothing stood changes no content. -/
theorem fileAt_put_directory {loc : Location} (hroot : loc ≠ []) (hnode : fs.lookup loc = none)
    (mode : Nat) : (fs.put loc (.directory mode)).fileAt = fs.fileAt := by
  funext other
  by_cases hother : other = loc
  · unfold fileAt
    rw [lookup_put fs _ other hroot, if_pos hother, hother, hnode]
  · exact fileAt_congr (by rw [lookup_put fs _ other hroot, if_neg hother])

end TestRig.FileSystem
