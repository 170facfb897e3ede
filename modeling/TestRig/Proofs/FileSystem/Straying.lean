/-
  TestRig.Proofs.FileSystem.Straying

  Paths that lead nowhere because a directory on their way is missing (`strays_iff`).  A
  copy that finds no entry has a missing source, or a destination that strays
  (`copy_eq_noEntry`).  Without links the entries of what stands somewhere never stray
  (`Stands.not_strays_join`), and what stands goes on standing while files are copied
  (`FilesChanged.stands`).
-/
import TestRig.Proofs.FileSystem.Following
import TestRig.Proofs.FileSystem.Writing

namespace TestRig.FileSystem

open Text (encode)

variable {fs fs' : FileSystem} {path : Bytes}

/-! ## Missing entries -/

/-- The path leads through a directory that is missing. -/
def Strays (fs : FileSystem) (path : Bytes) : Prop := fs.locate path .follow = .error .noEntry

theorem pathExists_eq_true_iff :
    fs.pathExists path = true ↔ ∃ loc node, fs.find path .follow = .ok (loc, node) := by
  unfold pathExists
  cases fs.find path .follow with
  | error e => simp [Except.toOption]
  | ok found => exact iff_of_true rfl ⟨found.1, found.2, rfl⟩

theorem pathExists_eq_false_iff :
    fs.pathExists path = false ↔ ∃ refusal, fs.find path .follow = .error refusal := by
  unfold pathExists
  cases fs.find path .follow with
  | error e => simp [Except.toOption]
  | ok found => simp [Except.toOption]

/-- Opening for writing misses an entry only on the way: the file itself would be created. -/
theorem strays_of_openForWriting {truncate : Bool} {mode : Nat}
    (h : fs.openForWriting path truncate mode = .error .noEntry) : fs.Strays path := by
  unfold openForWriting at h
  simp only [bind, Except.bind] at h
  obtain ⟨-, h⟩ | ⟨-, h⟩ := ite_eq_iff.1 h
  · cases h
  unfold Strays
  cases hlocate : fs.locate path .follow with
  | error refusal =>
    simp only [hlocate, Except.error.injEq] at h
    rw [h]
  | ok loc =>
    -- whatever stands at the location, opening does not miss it
    simp only [hlocate] at h
    split at h <;> cases h

/-- A copy that misses an entry misses its source, or its destination strays. -/
theorem copy_eq_noEntry {source target : Bytes} (h : fs.copy source target = .error .noEntry) :
    fs.pathExists source = false ∨ fs.Strays target := by
  unfold copy at h
  -- the source is looked for first, and only then is the destination opened
  cases hfind : fs.find source .follow with
  | error refusal => exact .inl (pathExists_eq_false_iff.2 ⟨refusal, hfind⟩)
  | ok found =>
    obtain ⟨loc, node⟩ := found
    simp only [hfind, bind, Except.bind] at h
    cases node with
    | directory mode => cases h
    | link text => cases h
    | device device => cases h
    | file mode content =>
      cases hopen : fs.openForWriting target true mode with
      | error refusal =>
        simp only [hopen, Except.error.injEq] at h
        rw [h] at hopen
        exact .inr (strays_of_openForWriting hopen)
      | ok opened =>
        simp only [hopen] at h
        split at h <;> cases h

/-! ## Slashes at the end -/

/-- A slash at the end adds no name. -/
theorem namesAlong_append_slash (path : Bytes) :
    namesAlong (path ++ [slash]) = namesAlong path := by
  rw [namesAlong, Text.splitAt_append_sep, Text.splitAt_nil, List.filter_append, namesAlong]
  simp

theorem namesAlong_append_slashes (path : Bytes) (count : Nat) :
    namesAlong (path ++ List.replicate count slash) = namesAlong path := by
  induction count with
  | zero => rw [List.replicate_zero, List.append_nil]
  | succ count ih => rw [List.replicate_succ', ← List.append_assoc, namesAlong_append_slash, ih]

/-- Without the slashes at its end a path has the same names and the same start. -/
theorem withoutSlashes_spec (path : Bytes) :
    namesAlong (withoutSlashes path) = namesAlong path ∧
      ∀ fs : FileSystem, fs.startOf (withoutSlashes path) = fs.startOf path := by
  have hsplit : path.rdropWhile (· = slash) ++ path.rtakeWhile (· = slash) = path :=
    List.rdropWhile_append_rtakeWhile
  have hslashes : path.rtakeWhile (· = slash) =
      List.replicate (path.rtakeWhile (· = slash)).length slash :=
    List.eq_replicate_iff.2 ⟨rfl, fun b hb => by simpa using List.mem_rtakeWhile_imp hb⟩
  unfold withoutSlashes
  change namesAlong (if (path.rdropWhile (· = slash)).isEmpty then path
      else path.rdropWhile (· = slash)) = _ ∧ ∀ fs : FileSystem, fs.startOf
    (if (path.rdropWhile (· = slash)).isEmpty then path else path.rdropWhile (· = slash)) = _
  split
  · exact ⟨rfl, fun fs => rfl⟩
  · rename_i hbare
    have hne : path.rdropWhile (· = slash) ≠ [] := by simpa using hbare
    constructor
    · conv_rhs => rw [← hsplit, hslashes, namesAlong_append_slashes]
    · intro fs
      have hhead : path.head? = (path.rdropWhile (· = slash)).head? := by
        conv_lhs => rw [← hsplit, List.head?_append_of_ne_nil _ hne]
      rw [startOf, startOf, hhead]

/-- A place is where the names along its path lead. -/
theorem place_eq_foldl (fs : FileSystem) (path : Bytes) :
    fs.place path = (namesAlong path).foldl stepTo (fs.startOf path) := by
  rw [place]
  rcases stepsOf_eq path with heq | heq
  · rw [heq]
  · rw [heq, List.foldl_append, List.foldl_cons, stepTo_here, List.foldl_nil]

theorem Reaches.passable_namesAlong (h : fs.Reaches path) :
    fs.Passable (fs.startOf path) (namesAlong path) := by
  obtain ⟨-, -, -, hpass⟩ := h
  rcases stepsOf_eq path with heq | heq
  · rwa [heq] at hpass
  · rw [heq, passable_append] at hpass
    exact hpass.1

/-! ## What stands somewhere -/

/-- Something stands where the names along the path lead. -/
structure Stands (fs : FileSystem) (path : Bytes) : Prop where
  ne_nil : path ≠ []
  passable : fs.Passable (fs.startOf path) (namesAlong path)
  isSome : (fs.lookup (fs.place path)).isSome = true

theorem stands_of_pathExists (hlinks : fs.LinkFree) (h : fs.pathExists path = true) :
    fs.Stands path := by
  obtain ⟨loc, node, hfind⟩ := pathExists_eq_true_iff.1 h
  obtain ⟨hreach, rfl, hnode⟩ := (find_eq_ok_iff hlinks).1 hfind
  exact ⟨hreach.2.1, hreach.passable_namesAlong, by rw [hnode, Option.isSome_some]⟩

/-- A directory stands where it was made. -/
theorem stands_of_makeDirectory (hlinks : fs.LinkFree) {mode : Nat}
    (h : fs.makeDirectory path mode = .ok fs') : fs'.Stands path := by
  unfold makeDirectory at h
  cases hlocate : fs.locate (withoutSlashes path) .keep with
  | error e => simp [hlocate, bind, Except.bind] at h
  | ok loc =>
    obtain ⟨hreach, rfl⟩ := (locate_eq_ok_iff hlinks).1 hlocate
    simp only [hlocate, bind, Except.bind] at h
    cases hnode : fs.lookup (fs.place (withoutSlashes path)) with
    | some node => simp [hnode] at h
    | none =>
      obtain ⟨hnames, hstart⟩ := withoutSlashes_spec path
      have hplace : fs.place (withoutSlashes path) = fs.place path := by
        rw [place_eq_foldl, place_eq_foldl, hnames, hstart]
      rw [hplace] at hnode h
      obtain rfl : fs.put (fs.place path) (.directory (fs.maskMode mode)) = fs' := by
        simpa [hnode] using h
      have hroot : fs.place path ≠ [] := by
        intro hnil
        simp [hnil] at hnode
      have hpass := hreach.passable_namesAlong
      rw [hnames, hstart] at hpass
      have hne : path ≠ [] := by
        rintro rfl
        exact hreach.2.1 rfl
      refine ⟨hne, hpass.mono ?_, ?_⟩
      · -- the directories that are there stay
        rintro other ⟨m, hother⟩
        refine ⟨m, ?_⟩
        rw [lookup_put fs _ other hroot, if_neg, hother]
        rintro rfl
        simp [hnode] at hother
      · change (FileSystem.lookup _ (fs.place path)).isSome = true
        rw [lookup_put fs _ _ hroot, if_pos rfl, Option.isSome_some]

theorem FilesChanged.stands {touched : Location → Prop} (hchanged : FilesChanged touched fs fs')
    (h : fs.Stands path) : fs'.Stands path := by
  have hstart : fs'.startOf path = fs.startOf path := by
    rw [startOf, startOf, hchanged.current_eq]
  refine ⟨h.ne_nil, ?_, ?_⟩
  · rw [hstart]
    exact h.passable.mono fun loc hdir => hchanged.hasDirectory_iff.2 hdir
  · rw [hchanged.place_eq]
    rcases hchanged.file (fs.place path) with heq | ⟨-, mode, content, hfile⟩
    · rw [heq, h.isSome]
    · rw [hfile, Option.isSome_some]

/-! ## Entries do not stray -/

theorem walk_notDirectory {last : LastLink} {links : Nat} {loc : Location} {node : Node}
    (hnode : fs.lookup loc = some node) (hother : ∀ mode, node ≠ .directory mode) (name : Name)
    (rest : List Name) : fs.walk last links loc (name :: rest) = .error .notDirectory := by
  rw [walk, hnode]
  cases node with
  | directory mode => exact absurd rfl (hother mode)
  | file mode content => rfl
  | link target => rfl
  | device device => rfl

/-- Without links names are refused for a missing entry when one of them would be looked up where
nothing stands. -/
theorem walk_eq_noEntry_iff (hlinks : fs.LinkFree) {last : LastLink} {links : Nat} {loc : Location}
    {names : List Name} : fs.walk last links loc names = .error .noEntry ↔
      ∃ before name rest, names = before ++ name :: rest ∧ fs.Passable loc before ∧
        fs.lookup (before.foldl stepTo loc) = none := by
  induction names generalizing loc with
  | nil => simp [walk]
  | cons name names ih =>
    by_cases hpass : fs.HasDirectory loc ∧ (name = here ∨ name = above ∨ name.length ≤ 255)
    · obtain ⟨hdir, hname⟩ := hpass
      rw [walk_cons hlinks hdir names hname, ih]
      constructor
      · rintro ⟨before, missed, rest, rfl, hbefore, hnone⟩
        exact ⟨name :: before, missed, rest, rfl, ⟨hdir, hname, hbefore⟩, hnone⟩
      · rintro ⟨before, missed, rest, hsplit, hbefore, hnone⟩
        cases before with
        | nil =>
          obtain ⟨mode, hmode⟩ := hdir
          simp [hmode] at hnone
        | cons first before =>
          obtain ⟨rfl, rfl⟩ := List.cons.inj hsplit
          exact ⟨before, missed, rest, rfl, hbefore.2.2, hnone⟩
    · -- the first name is refused, for a missing entry only if nothing stands here
      have hfirst : fs.walk last links loc (name :: names) = .error .noEntry ↔
          fs.lookup loc = none := by
        cases hnode : fs.lookup loc with
        | none =>
          rw [walk, hnode]
          exact iff_of_true rfl rfl
        | some node =>
          by_cases hdir : fs.HasDirectory loc
          · have hbad : ¬ (name = here ∨ name = above ∨ name.length ≤ 255) := fun hname =>
              hpass ⟨hdir, hname⟩
            obtain ⟨hhere, habove, hlong⟩ := by simpa only [not_or] using hbad
            rw [walk_tooLong hdir hhere habove (Nat.lt_of_not_le hlong)]
            exact iff_of_false (by decide) (by simp)
          · have hother : ∀ mode, node ≠ .directory mode := fun mode heq => hdir ⟨mode, heq ▸ hnode⟩
            rw [walk_notDirectory hnode hother]
            exact iff_of_false (by decide) (by simp)
      rw [hfirst]
      constructor
      · exact fun hnone => ⟨[], name, names, rfl, trivial, hnone⟩
      · rintro ⟨before, missed, rest, hsplit, hbefore, hnone⟩
        cases before with
        | nil => exact hnone
        | cons first before =>
          obtain ⟨rfl, -⟩ := List.cons.inj hsplit
          exact absurd ⟨hbefore.1, hbefore.2.1⟩ hpass

/-- Without links a path strays when the system takes it and a directory on its way is missing, or
when it is empty. -/
theorem strays_iff (hlinks : fs.LinkFree) : fs.Strays path ↔
    path = [] ∨ Admissible path ∧ ∃ before name rest, stepsOf path = before ++ name :: rest ∧
      fs.Passable (fs.startOf path) before ∧
      fs.lookup (before.foldl stepTo (fs.startOf path)) = none := by
  unfold Strays locate
  by_cases hnul : 0 ∈ path
  · have hne : path ≠ [] := List.ne_nil_of_mem hnul
    have hother : ¬ Admissible path := fun h => h.nulFree hnul
    simp [hnul, hne, hother, IoError.noEntry]
  by_cases hne : path = []
  · simp [hne]
  by_cases hlen : 4096 ≤ path.length
  · have hother : ¬ Admissible path := fun h => absurd hlen (Nat.not_le.2 h.length_lt)
    simp [hnul, hne, hlen, hother, IoError.nameTooLong, IoError.noEntry]
  have hpath : Admissible path := ⟨hnul, hne, Nat.lt_of_not_le hlen⟩
  have hwalk : fs.walk .follow linkLimit (fs.startOf path) (stepsOf path) = .error .noEntry ↔ _ :=
    walk_eq_noEntry_iff hlinks
  rw [← hwalk]
  simp [hnul, hne, hlen, hpath, startOf]

/-- Where names can be followed every one of them is looked up in a directory. -/
theorem Passable.hasDirectory {loc : Location} {before rest : List Name} {name : Name}
    (h : fs.Passable loc (before ++ name :: rest)) :
    fs.HasDirectory (before.foldl stepTo loc) := by
  rw [passable_append] at h
  exact h.2.1

/-- Without links the entry of something that stands somewhere does not stray. -/
theorem Stands.not_strays_join {dir name : String} (hlinks : fs.LinkFree)
    (h : fs.Stands (encode dir)) (hname : Path.IsName name) :
    ¬ fs.Strays (encode (Path.join dir name)) := by
  have hdir : dir ≠ "" := by
    rintro rfl
    exact h.ne_nil rfl
  have hne : encode (Path.join dir name) ≠ [] := by
    rw [encode_join hdir hname]
    split
    · exact List.append_ne_nil_of_right_ne_nil _ (encode_ne_nil hname)
    · simp
  rw [strays_iff hlinks, startOf_join fs hdir hname, stepsOf_join hdir hname]
  rintro (hempty | ⟨-, before, missed, rest, hsplit, -, hnone⟩)
  · exact hne hempty
  -- the name that is missed is the last one, or one of those that lead to what stands there
  rcases List.eq_nil_or_concat rest with rfl | ⟨more, final, rfl⟩
  · obtain ⟨rfl, -⟩ := List.append_inj' hsplit rfl
    have hthere := h.isSome
    rw [place_eq_foldl, hnone] at hthere
    cases hthere
  · have hnames : namesAlong (encode dir) = before ++ missed :: more := by
      rw [List.concat_eq_append, ← List.cons_append, ← List.append_assoc] at hsplit
      exact (List.append_inj' hsplit rfl).1
    have hpass := h.passable
    rw [hnames] at hpass
    obtain ⟨mode, hmode⟩ := hpass.hasDirectory
    rw [hnone] at hmode
    cases hmode

end TestRig.FileSystem
