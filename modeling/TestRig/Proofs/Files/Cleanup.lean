/-
  TestRig.Proofs.Files.Cleanup

  What a cleanup does to a file system with symbolic links.  The path of a listed name
  leads to the entry of that name, or nowhere, however many entries are gone already
  (`LeadsTo.entry_of_find`), so a cleanup never leaves its directory, even if removals are
  refused halfway (`LeadsTo.thinned_sweep`).  A cleanup that succeeds has found every entry
  under its own name (`LeadsTo.swept_of_cleanup_eq_ok`): it empties the directory exactly
  if the names are texts and the path to the directory does not lead through the entries.
-/
import Mathlib.Data.List.Perm.Subperm
import TestRig.Proofs.FileSystem.Removing
import TestRig.Proofs.Files.Sweep

namespace TestRig.Files

open FileSystem
open Text (encode)

variable {fs fs₁ fs₂ : FileSystem} {dir : String} {loc : Location} {mode : Nat}

/-! ## Names of entries as texts -/

/-- The name of an entry is shown as a text that can be a name. -/
theorem isName_decodeLossy {name : Name} (h : EntryName name) :
    Path.IsName (Text.decodeLossy name) where
  slashless := fun hmem => h.slashless (Text.mem_of_mem_decodeLossy (by decide) (by decide) hmem)
  ne_empty := fun hempty => h.ne_nil (Text.decodeLossy_eq_empty_iff.1 hempty)
  ne_here := fun heq =>
    h.ne_here ((Text.eq_encode_of_decodeLossy heq (by decide)).trans (by decide))
  ne_above := fun heq =>
    h.ne_above ((Text.eq_encode_of_decodeLossy heq (by decide)).trans (by decide))

/-! ## Removing an entry -/

theorem removeEntry_of_find {path : String} {node : Node}
    (h : fs.find (encode path) .keep = .ok (loc, node)) (hroot : loc ≠ []) :
    removeEntry fs path =
      (.ok (), if node.isDirectory then fs.eraseTree loc else fs.erase loc) := by
  unfold removeEntry removeTree FileSystem.removeFile
  cases node <;> simp [h, bind, Except.bind, Node.isDirectory, hroot]

theorem removeEntry_of_refusal {path : String} {refusal : IoError}
    (h : fs.find (encode path) .keep = .error refusal) :
    removeEntry fs path = (.error refusal, fs) := by
  unfold removeEntry
  simp [h, bind, Except.bind]

/-- The removal takes away nothing that the removal of the entry would not take away.  It may be
refused at any point, and halfway through a tree too. -/
def RemovesAtMost (remove : FileSystem → String → Except IoError Unit × FileSystem) : Prop :=
  ∀ fs path, Thinned (fun other => (removeEntry fs path).2.lookup other = none) fs
    (remove fs path).2

theorem removesAtMost_removeEntry : RemovesAtMost removeEntry := by
  intro fs path
  cases hfind : fs.find (encode path) .keep with
  | error refusal =>
    rw [removeEntry_of_refusal hfind]
    exact .refl _ fs
  | ok found =>
    obtain ⟨loc, node⟩ := found
    by_cases hroot : loc = []
    · -- the root is refused
      obtain ⟨-, hnode⟩ := find_eq_ok_iff_locate.1 hfind
      obtain rfl : Node.directory 0o755 = node := Option.some.inj (by rw [← hnode, hroot]; rfl)
      have hrefused : removeEntry fs path = (.error (.system 16), fs) := by
        unfold removeEntry removeTree
        simp [hfind, bind, Except.bind, Node.isDirectory, hroot]
      rw [hrefused]
      exact .refl _ fs
    · rw [removeEntry_of_find hfind hroot]
      split
      · exact (thinned_eraseTree fs hroot).mono fun other hgone =>
          (lookup_eraseTree fs other hroot).trans (if_pos hgone)
      · exact (thinned_erase fs hroot).mono fun other hgone =>
          (lookup_erase fs other hroot).trans (if_pos hgone)

/-! ## Removing a listed name -/

/-- The path leads to a directory of a well-formed file system. -/
structure LeadsTo (fs : FileSystem) (dir : String) (loc : Location) (mode : Nat) : Prop where
  wellFormed : fs.WellFormed
  found : fs.find (encode dir) .follow = .ok (loc, .directory mode)

namespace LeadsTo

variable {name : String} {l : Location} {node : Node}

theorem dir_ne_empty (h : LeadsTo fs dir loc mode) : dir ≠ "" := by
  rintro rfl
  cases h.found

/-- The path of a listed name leads to the entry of that name, also when nodes below the directory
are gone. -/
theorem entry_of_find (h : LeadsTo fs dir loc mode) (hthin : Thinned (Below loc) fs fs₁)
    (hname : Path.IsName name)
    (hfind : fs₁.find (encode (Path.join dir name)) .keep = .ok (l, node)) :
    l = loc ++ [encode name] ∧ fs.lookup l = some node ∧
      Admissible (encode (Path.join dir name)) := by
  obtain ⟨parent, m, hparent, rfl, hnode, -, hpath⟩ :=
    (find_join_iff h.dir_ne_empty hname).1 (hthin.find hfind)
  obtain ⟨rfl, -⟩ : parent = loc ∧ _ := by simpa using hparent.symm.trans h.found
  exact ⟨rfl, hnode, hpath⟩

/-- An entry that is found is removed with all that is below it, and nothing else. -/
theorem removeEntry_eq (h : LeadsTo fs dir loc mode) (hthin : Thinned (Below loc) fs fs₁)
    (hname : Path.IsName name)
    (hfind : fs₁.find (encode (Path.join dir name)) .keep = .ok (l, node)) :
    ∃ fs₂, removeEntry fs₁ (Path.join dir name) = (.ok (), fs₂) ∧
      fs₂.current = fs₁.current ∧ ∀ other,
        fs₂.lookup other = if loc ++ [encode name] <+: other then none else fs₁.lookup other := by
  obtain ⟨rfl, hnode, -⟩ := h.entry_of_find hthin hname hfind
  have hroot := entry_ne_root loc (encode name)
  refine ⟨_, removeEntry_of_find hfind hroot, ?_, fun other => ?_⟩
  · split <;> rfl
  split
  · exact lookup_eraseTree fs₁ other hroot
  · rename_i hplain
    rw [lookup_erase fs₁ other hroot]
    by_cases hself : other = loc ++ [encode name]
    · simp [hself]
    rw [if_neg hself]
    split
    · rename_i hbelow
      -- there is nothing below what is no directory
      cases hother : fs₁.lookup other with
      | none => rfl
      | some found =>
        obtain ⟨m, hmode⟩ := h.wellFormed.hasDirectory_of_below ⟨hbelow, hself⟩
          (hthin.lookup_of_eq_some hother)
        obtain rfl : node = .directory m := Option.some.inj (hnode.symm.trans hmode)
        exact absurd rfl hplain
    · rfl

/-- Removing an entry takes away nodes below the directory alone. -/
theorem thinned_of_removeEntry_eq (hcurrent : fs₂.current = fs₁.current)
    (hlookup : ∀ other, fs₂.lookup other =
      if loc ++ [encode name] <+: other then none else fs₁.lookup other) :
    Thinned (Below loc) fs₁ fs₂ :=
  (Thinned.of_lookup hcurrent hlookup).mono fun _ => below_of_prefix_append

/-- So does any removal that takes away no more. -/
theorem thinned_remove (h : LeadsTo fs dir loc mode)
    {remove : FileSystem → String → Except IoError Unit × FileSystem}
    (hremove : RemovesAtMost remove) (hthin : Thinned (Below loc) fs fs₁)
    (hname : Path.IsName name) : Thinned (Below loc) fs₁ (remove fs₁ (Path.join dir name)).2 := by
  have hmost := hremove fs₁ (Path.join dir name)
  refine ⟨hmost.current_eq, fun other => ?_⟩
  rcases hmost.lookup other with heq | ⟨hentry, hnone⟩
  · exact .inl heq
  -- a removal of the entry would have taken the same node away
  cases hfind : fs₁.find (encode (Path.join dir name)) .keep with
  | error refusal =>
    rw [removeEntry_of_refusal hfind] at hentry
    exact .inl (hnone.trans hentry.symm)
  | ok found =>
    obtain ⟨fs₂, hrun, -, hlookup⟩ := h.removeEntry_eq hthin hname hfind
    rw [hrun, hlookup other] at hentry
    split at hentry
    · exact .inr ⟨below_of_prefix_append ‹_›, hnone⟩
    · exact .inl (hnone.trans hentry.symm)

/-! ## Cleanups stay below -/

theorem thinned_sweep (h : LeadsTo fs dir loc mode)
    {remove : FileSystem → String → Except IoError Unit × FileSystem}
    (hremove : RemovesAtMost remove) {names : List String}
    (hnames : ∀ name ∈ names, Path.IsName name) (hthin : Thinned (Below loc) fs fs₁)
    (removed : Nat) : Thinned (Below loc) fs (sweep remove dir removed names fs₁).2 := by
  -- compared with the file system at the start, in which the path leads to the directory
  induction names generalizing fs₁ removed with
  | nil => exact hthin
  | cons name rest ih =>
    obtain ⟨hname, hrest⟩ := List.forall_mem_cons.1 hnames
    have hstep := hthin.trans (h.thinned_remove hremove hthin hname)
    rw [sweep]
    rcases hrun : remove fs₁ (Path.join dir name) with ⟨refusal | ⟨⟩, fs₂⟩
    · rwa [hrun] at hstep
    · rw [hrun] at hstep
      exact ih hrest hstep (removed + 1)

/-- The cleanup of a directory is a sweep of the names of its entries. -/
theorem cleanupWith_eq (h : LeadsTo fs dir loc mode)
    (remove : FileSystem → String → Except IoError Unit × FileSystem) :
    cleanupWith id remove fs dir = sweep remove dir 0 (shownNames (fs.names loc)) fs := by
  have hentries : (id fs).entries (encode dir) = .ok (fs.names loc) := by
    rw [id, entries, h.found]
    rfl
  exact cleanupWith_eq_sweep remove hentries

theorem isName_of_mem_shownNames (h : LeadsTo fs dir loc mode) {name : String}
    (hname : name ∈ shownNames (fs.names loc)) : Path.IsName name := by
  obtain ⟨bytes, hbytes, rfl⟩ := List.mem_map.1 ((perm_shownNames _).mem_iff.1 hname)
  obtain ⟨node, hnode⟩ := mem_names_iff.1 hbytes
  exact isName_decodeLossy (h.wellFormed.of_lookup hnode).1

end LeadsTo

/-- What is not below the directory is as it was, and so is the directory; what is below it is as it
was or gone. -/
structure StaysBelow (loc : Location) (mode : Nat) (before after : FileSystem) : Prop where
  outside : ∀ other, ¬ Below loc other → after.lookup other = before.lookup other
  directory : after.lookup loc = some (.directory mode)
  below : ∀ other, after.lookup other = before.lookup other ∨ after.lookup other = none

/-- A cleanup touches nothing that is not below its directory, wherever symbolic links point to and
whichever removals are refused, be it halfway through a tree. -/
theorem cleanup_stays_below (hfs : fs.WellFormed)
    (hdir : fs.find (encode dir) .follow = .ok (loc, .directory mode)) :
    StaysBelow loc mode fs (cleanup fs dir).2 ∧
      ∀ remove, RemovesAtMost remove → StaysBelow loc mode fs (cleanupWith id remove fs dir).2 := by
  have h : LeadsTo fs dir loc mode := ⟨hfs, hdir⟩
  have hstays : ∀ remove, RemovesAtMost remove →
      StaysBelow loc mode fs (cleanupWith id remove fs dir).2 := by
    intro remove hremove
    rw [h.cleanupWith_eq remove]
    have hthin := h.thinned_sweep hremove (fun name => h.isName_of_mem_shownNames) (.refl _ fs) 0
    have hself : ¬ Below loc loc := fun hbelow => hbelow.2 rfl
    refine ⟨fun other => hthin.lookup_eq, ?_, fun other => (hthin.lookup other).imp_right And.right⟩
    rw [hthin.lookup_eq hself]
    exact (find_eq_ok_iff_locate.1 hdir).2
  exact ⟨hstays removeEntry removesAtMost_removeEntry, hstays⟩

/-- A directory with links to another one and to the root, one of them in a tree. -/
def diskOfLinks : FileSystem where
  nodes := [([encode "s"], .directory 0o755), ([encode "s", encode "k"], .file 0o644 [1]),
    ([encode "d"], .directory 0o755), ([encode "d", encode "a"], .link (encode "../s")),
    ([encode "d", encode "t"], .directory 0o755),
    ([encode "d", encode "t", encode "o"], .link (encode "/s")),
    ([encode "d", encode "t", encode "u"], .link (encode "../..")),
    ([encode "d", encode "x"], .file 0o644 []), ([encode "d", encode "z"], .file 0o644 [])]

/-- A removal that is refused at one entry. -/
def refuseLocked (fs : FileSystem) (path : String) : Except IoError Unit × FileSystem :=
  if path = "d/x" then (.error .accessDenied, fs) else removeEntry fs path

theorem removesAtMost_refuseLocked : RemovesAtMost refuseLocked := by
  intro fs path
  unfold refuseLocked
  split
  · exact .refl _ fs
  · exact removesAtMost_removeEntry fs path

theorem cleanup_stays_below_locked :
    (cleanup diskOfLinks "d").1 = .ok 4 ∧
      StaysBelow [encode "d"] 0o755 diskOfLinks (cleanup diskOfLinks "d").2 ∧
      (cleanupWith id refuseLocked diskOfLinks "d").1 =
        .error (.cleanupAborted "d/x" 2 "Permission denied (os error 13)") ∧
      StaysBelow [encode "d"] 0o755 diskOfLinks (cleanupWith id refuseLocked diskOfLinks "d").2 ∧
      (cleanupWith id refuseLocked diskOfLinks "d").2.names [encode "d"] =
        [encode "x", encode "z"] := by
  have hfs : diskOfLinks.WellFormed := by decide
  have hdir : diskOfLinks.find (encode "d") .follow = .ok ([encode "d"], .directory 0o755) := by
    simp only [find, locate, walk_eq_walkLinks]
    decide +kernel
  have h : LeadsTo diskOfLinks "d" [encode "d"] 0o755 := ⟨hfs, hdir⟩
  have hnames : shownNames (diskOfLinks.names [encode "d"]) = ["a", "t", "x", "z"] :=
    shownNames_eq (by decide +kernel) (by decide +kernel)
  have hfree : (cleanup diskOfLinks "d").1 = .ok 4 := by
    rw [cleanup, h.cleanupWith_eq, hnames]
    simp only [sweep, removeEntry, FileSystem.removeFile, removeTree, find, locate,
      walk_eq_walkLinks]
    decide +kernel
  have hrefused : (cleanupWith id refuseLocked diskOfLinks "d").1 =
        .error (.cleanupAborted "d/x" 2 "Permission denied (os error 13)") ∧
      (cleanupWith id refuseLocked diskOfLinks "d").2.names [encode "d"] =
        [encode "x", encode "z"] := by
    rw [h.cleanupWith_eq, hnames]
    simp only [sweep, refuseLocked, removeEntry, FileSystem.removeFile, removeTree, find, locate,
      walk_eq_walkLinks]
    decide +kernel
  obtain ⟨hstays, hlocked⟩ := cleanup_stays_below hfs hdir
  exact ⟨hfree, hstays, hrefused.1, hlocked refuseLocked removesAtMost_refuseLocked, hrefused.2⟩

/-! ## Complete cleanups -/

/-- The entries of the given names are gone, each with all that is below it, and nothing else. -/
structure Swept (loc : Location) (names : List String) (before after : FileSystem) : Prop where
  current_eq : after.current = before.current
  lookup : ∀ other, after.lookup other =
    if ∃ name ∈ names, loc ++ [encode name] <+: other then none else before.lookup other

theorem Swept.nil (loc : Location) (fs : FileSystem) : Swept loc [] fs fs :=
  ⟨rfl, fun other => by simp⟩

theorem Swept.cons {name : String} {names : List String} (hcurrent : fs₁.current = fs.current)
    (hlookup : ∀ other, fs₁.lookup other =
      if loc ++ [encode name] <+: other then none else fs.lookup other)
    (h : Swept loc names fs₁ fs₂) : Swept loc (name :: names) fs fs₂ := by
  refine ⟨h.current_eq.trans hcurrent, fun other => ?_⟩
  rw [h.lookup other, hlookup other]
  by_cases hfirst : loc ++ [encode name] <+: other
  · simp [hfirst]
  · simp [hfirst]

/-- Once all its entries are swept, the directory is emptied. -/
theorem Swept.lookup_eq_emptied {names : List String} (h : Swept loc names fs fs₁)
    (hnames : (names.map encode).Perm (fs.names loc)) (other : Location) :
    fs₁.lookup other = (fs.emptied loc).lookup other := by
  have hsame : (∃ name ∈ names, loc ++ [encode name] <+: other) ↔
      ∃ name ∈ fs.names loc, loc ++ [name] <+: other := by
    simp [← hnames.mem_iff]
  rw [h.lookup other, emptied, lookup_foldl_eraseTree]
  simp only [hsame]

theorem Swept.find_iff {names : List String} (h : Swept loc names fs fs₁)
    (hnames : (names.map encode).Perm (fs.names loc)) {path : Bytes} {last : LastLink}
    {l : Location} {node : Node} :
    fs₁.find path last = .ok (l, node) ↔ (fs.emptied loc).find path last = .ok (l, node) := by
  have hcurrent := h.current_eq.trans (current_emptied fs loc).symm
  have hlookup := h.lookup_eq_emptied hnames
  have hto : Thinned (Below loc) (fs.emptied loc) fs₁ :=
    ⟨hcurrent, fun other => .inl (hlookup other)⟩
  have hfrom : Thinned (Below loc) fs₁ (fs.emptied loc) :=
    ⟨hcurrent.symm, fun other => .inl (hlookup other).symm⟩
  exact ⟨hto.find, hfrom.find⟩

namespace LeadsTo

variable {names : List String}

/-- A sweep that succeeds found an entry for each of its names, no name twice. -/
theorem swept_of_sweep_eq_ok (h : LeadsTo fs dir loc mode)
    (hnames : ∀ name ∈ names, Path.IsName name) (hthin : Thinned (Below loc) fs fs₁)
    {removed count : Nat} (hrun : sweep removeEntry dir removed names fs₁ = (.ok count, fs₂)) :
    Swept loc names fs₁ fs₂ ∧ names.Nodup ∧ ∀ name ∈ names,
      encode name ∈ fs₁.names loc ∧ Admissible (encode (Path.join dir name)) := by
  induction names generalizing fs₁ removed with
  | nil =>
    obtain rfl : fs₁ = fs₂ := congrArg Prod.snd hrun
    exact ⟨.nil loc fs₁, .nil, by simp⟩
  | cons name rest ih =>
    obtain ⟨hname, hrest⟩ := List.forall_mem_cons.1 hnames
    rw [sweep] at hrun
    cases hfind : fs₁.find (encode (Path.join dir name)) .keep with
    | error refusal =>
      rw [removeEntry_of_refusal hfind] at hrun
      cases congrArg Prod.fst hrun
    | ok found =>
      obtain ⟨l, node⟩ := found
      obtain ⟨fs₁', hremove, hcurrent, hlookup⟩ := h.removeEntry_eq hthin hname hfind
      obtain ⟨rfl, -, hpath⟩ := h.entry_of_find hthin hname hfind
      have hnode := (find_eq_ok_iff_locate.1 hfind).2
      have hstep := thinned_of_removeEntry_eq hcurrent hlookup
      rw [hremove] at hrun
      obtain ⟨hswept, hnodup, hfound⟩ := ih hrest (hthin.trans hstep) hrun
      refine ⟨hswept.cons hcurrent hlookup, List.nodup_cons.2 ⟨fun hmem => ?_, hnodup⟩,
        List.forall_mem_cons.2 ⟨⟨mem_names_iff.2 ⟨node, hnode⟩, hpath⟩, fun other hother => ?_⟩⟩
      · -- the entry is gone when its name comes up again
        obtain ⟨node', hnode'⟩ := mem_names_iff.1 (hfound name hmem).1
        rw [hlookup, if_pos (List.prefix_refl _)] at hnode'
        cases hnode'
      · obtain ⟨⟨node', hnode'⟩, hpath'⟩ := (hfound other hother).imp_left mem_names_iff.1
        exact ⟨mem_names_iff.2 ⟨node', hstep.lookup_of_eq_some hnode'⟩, hpath'⟩

/-- A sweep of entries succeeds if the path still leads to the directory when that is empty. -/
theorem sweep_succeeds (h : LeadsTo fs dir loc mode)
    (hempty : (fs.emptied loc).find (encode dir) .follow = .ok (loc, .directory mode))
    (hnodup : names.Nodup) (hthin : Thinned (Below loc) fs fs₁)
    (hentries : ∀ name ∈ names, Path.IsName name ∧ encode name ∈ fs₁.names loc ∧
      Admissible (encode (Path.join dir name))) (removed : Nat) :
    ∃ fs₂, sweep removeEntry dir removed names fs₁ = (.ok (removed + names.length), fs₂) := by
  induction names generalizing fs₁ removed with
  | nil => exact ⟨fs₁, rfl⟩
  | cons name rest ih =>
    obtain ⟨hfresh, hnodup⟩ := List.nodup_cons.1 hnodup
    obtain ⟨⟨hname, hentry, hpath⟩, hrest⟩ := List.forall_mem_cons.1 hentries
    obtain ⟨node, hnode⟩ := mem_names_iff.1 hentry
    have hlength : (encode name).length ≤ 255 :=
      (h.wellFormed.of_lookup (hthin.lookup_of_eq_some hnode)).1.length_le
    -- what is still there is more than what is there in the end
    have hrest₁ : Thinned (Below loc) fs₁ (fs.emptied loc) := by
      refine ⟨(current_emptied fs loc).trans hthin.current_eq.symm, fun other => ?_⟩
      rw [lookup_emptied h.wellFormed]
      by_cases hbelow : Below loc other
      · exact .inr ⟨hbelow, if_pos hbelow⟩
      · rw [if_neg hbelow]
        exact .inl (hthin.lookup_eq hbelow).symm
    have hfind : fs₁.find (encode (Path.join dir name)) .keep =
        .ok (loc ++ [encode name], node) :=
      (find_join_iff h.dir_ne_empty hname).2
        ⟨loc, mode, hrest₁.find hempty, rfl, hnode, hlength, hpath⟩
    obtain ⟨fs₁', hremove, hcurrent, hlookup⟩ := h.removeEntry_eq hthin hname hfind
    have hstep := hthin.trans (thinned_of_removeEntry_eq hcurrent hlookup)
    have hcount : removed + 1 + rest.length = removed + (name :: rest).length := by
      rw [List.length_cons]
      omega
    rw [sweep, hremove, ← hcount]
    refine ih hnodup hstep (fun other hother => ?_) (removed + 1)
    obtain ⟨hother', hstill, hpath'⟩ := hrest other hother
    obtain ⟨node', hnode'⟩ := mem_names_iff.1 hstill
    refine ⟨hother', mem_names_iff.2 ⟨node', ?_⟩, hpath'⟩
    -- what stands at another name is not below this one
    rw [hlookup, if_neg, hnode']
    intro hover
    have heq : name = other := by simpa using Text.encode_injective (by simpa using hover)
    exact hfresh (heq ▸ hother)

/-- A cleanup that succeeds has swept all entries, under their own names. -/
theorem swept_of_cleanup_eq_ok (h : LeadsTo fs dir loc mode) {count : Nat}
    (hrun : cleanup fs dir = (.ok count, fs₁)) :
    Swept loc (shownNames (fs.names loc)) fs fs₁ ∧
      ((shownNames (fs.names loc)).map encode).Perm (fs.names loc) ∧
      ∀ name ∈ shownNames (fs.names loc), Admissible (encode (Path.join dir name)) := by
  have hsweep := (h.cleanupWith_eq removeEntry).symm.trans hrun
  obtain ⟨hswept, hnodup, hfound⟩ :=
    h.swept_of_sweep_eq_ok (fun name => h.isName_of_mem_shownNames) (.refl _ fs) hsweep
  -- as many names as entries, all of them names of entries, and no name twice
  have hsub : (shownNames (fs.names loc)).map encode ⊆ fs.names loc := by
    intro bytes hbytes
    obtain ⟨name, hname, rfl⟩ := List.mem_map.1 hbytes
    exact (hfound name hname).1
  have hdistinct : ((shownNames (fs.names loc)).map encode).Nodup :=
    hnodup.map fun _ _ => Text.encode_injective
  have hlength : (fs.names loc).length ≤ ((shownNames (fs.names loc)).map encode).length := by
    rw [List.length_map, (perm_shownNames _).length_eq, List.length_map]
  exact ⟨hswept, (hdistinct.subperm hsub).perm_of_length_le hlength,
    fun name hname => (hfound name hname).2⟩

/-- A cleanup succeeds if the names of the entries are texts, and the path still leads to the
directory when that is empty. -/
theorem cleanup_succeeds (h : LeadsTo fs dir loc mode)
    (htexts : ∀ name ∈ fs.names loc, ∃ text, name = encode text ∧
      (encode (Path.join dir text)).length < 4096)
    (hempty : (fs.emptied loc).find (encode dir) .follow = .ok (loc, .directory mode)) :
    ∃ fs₁, cleanup fs dir = (.ok (fs.names loc).length, fs₁) := by
  -- texts are shown as they are
  have hself : ((shownNames (fs.names loc)).map encode).Perm (fs.names loc) := by
    refine ((perm_shownNames _).map encode).trans (.of_eq ?_)
    rw [List.map_map]
    refine (List.map_congr_left fun name hname => ?_).trans (List.map_id _)
    obtain ⟨text, rfl, -⟩ := htexts name hname
    rw [Function.comp_apply, Text.decodeLossy_encode, id]
  have hnodup : (shownNames (fs.names loc)).Nodup :=
    (hself.nodup_iff.2 (h.wellFormed.nodup_names loc)).of_map
  have hentries : ∀ name ∈ shownNames (fs.names loc), Path.IsName name ∧
      encode name ∈ fs.names loc ∧ Admissible (encode (Path.join dir name)) := by
    intro name hmem
    have hname := h.isName_of_mem_shownNames hmem
    have hentry : encode name ∈ fs.names loc := hself.mem_iff.1 (List.mem_map_of_mem hmem)
    obtain ⟨node, hnode⟩ := mem_names_iff.1 hentry
    obtain ⟨text, heq, hlength⟩ := htexts _ hentry
    obtain rfl := Text.encode_injective heq
    obtain ⟨hpath, -⟩ := locate_eq_ok_iff_walk.1 (find_eq_ok_iff_locate.1 h.found).1
    exact ⟨hname, hentry,
      hpath.join h.dir_ne_empty hname (h.wellFormed.of_lookup hnode).1.nulFree hlength⟩
  obtain ⟨fs₁, hsweep⟩ := h.sweep_succeeds hempty hnodup (.refl _ fs) hentries 0
  refine ⟨fs₁, (h.cleanupWith_eq removeEntry).trans ?_⟩
  rw [hsweep, Nat.zero_add, (perm_shownNames _).length_eq, List.length_map]

end LeadsTo

/-- A cleanup empties its directory, and counts the entries, exactly if their names are texts with
paths that the system takes, and the path to the directory does not lead through them. -/
theorem cleanup_empties_iff (hfs : fs.WellFormed)
    (hdir : fs.find (encode dir) .follow = .ok (loc, .directory mode)) :
    (∃ after, cleanup fs dir = (.ok (fs.names loc).length, after) ∧
      after.find (encode dir) .follow = .ok (loc, .directory mode) ∧ after.names loc = []) ↔
    (∀ name ∈ fs.names loc, ∃ text, name = encode text ∧
      (encode (Path.join dir text)).length < 4096) ∧
    (fs.emptied loc).find (encode dir) .follow = .ok (loc, .directory mode) := by
  have h : LeadsTo fs dir loc mode := ⟨hfs, hdir⟩
  constructor
  · rintro ⟨after, hrun, hfound, -⟩
    obtain ⟨hswept, hperm, hpaths⟩ := h.swept_of_cleanup_eq_ok hrun
    refine ⟨fun name hname => ?_, (hswept.find_iff hperm).1 hfound⟩
    obtain ⟨text, htext, rfl⟩ := List.mem_map.1 (hperm.mem_iff.2 hname)
    exact ⟨text, rfl, (hpaths text htext).length_lt⟩
  · rintro ⟨htexts, hempty⟩
    obtain ⟨after, hrun⟩ := h.cleanup_succeeds htexts hempty
    obtain ⟨hswept, hperm, -⟩ := h.swept_of_cleanup_eq_ok hrun
    refine ⟨after, hrun, (hswept.find_iff hperm).2 hempty, ?_⟩
    rw [List.eq_nil_iff_forall_not_mem]
    intro name hname
    obtain ⟨node, hnode⟩ := mem_names_iff.1 hname
    rw [hswept.lookup_eq_emptied hperm, lookup_emptied hfs,
      if_pos (below_of_prefix_append (List.prefix_refl _))] at hnode
    cases hnode

/-- A directory with a file, a link to another directory and a tree. -/
def diskOfTexts : FileSystem where
  nodes := [([encode "s"], .directory 0o755), ([encode "s", encode "k"], .file 0o644 [1]),
    ([encode "d"], .directory 0o755), ([encode "d", encode "é"], .file 0o644 [2]),
    ([encode "d", encode "a b"], .link (encode "../s")),
    ([encode "d", encode "t"], .directory 0o700),
    ([encode "d", encode "t", encode "x"], .file 0o600 [])]

theorem cleanup_empties_iff_texts :
    ∃ after, cleanup diskOfTexts "d" = (.ok 3, after) ∧
      after.find (encode "d") .follow = .ok ([encode "d"], .directory 0o755) ∧
      after.names [encode "d"] = [] := by
  have hfs : diskOfTexts.WellFormed := by decide
  have hdir : diskOfTexts.find (encode "d") .follow = .ok ([encode "d"], .directory 0o755) := by
    simp only [find, locate, walk_eq_walkLinks]
    decide +kernel
  have hempty : (diskOfTexts.emptied [encode "d"]).find (encode "d") .follow =
      .ok ([encode "d"], .directory 0o755) := by
    simp only [find, locate, walk_eq_walkLinks]
    decide +kernel
  have hnames : diskOfTexts.names [encode "d"] = ["é", "a b", "t"].map encode := by decide
  refine (cleanup_empties_iff hfs hdir).2 ⟨fun name hname => ?_, hempty⟩
  rw [hnames] at hname
  obtain ⟨text, htext, rfl⟩ := List.mem_map.1 hname
  have hlengths : ∀ text ∈ ["é", "a b", "t"], (encode (Path.join "d" text)).length < 4096 := by
    decide
  exact ⟨text, rfl, hlengths text htext⟩

/-- A directory with an entry whose name is no UTF-8: `caf` with the Latin-1 byte of `é`. -/
def diskOfLatin : FileSystem where
  nodes := [([encode "d"], .directory 0o755),
    ([encode "d", [0x63, 0x61, 0x66, 0xE9]], .file 0o644 [])]

theorem cleanup_leaves_name_beyond_text :
    diskOfLatin.WellFormed ∧
      diskOfLatin.find (encode "d") .follow = .ok ([encode "d"], .directory 0o755) ∧
      cleanup diskOfLatin "d" = (.error (.cleanupAborted "d/caf\uFFFD" 0
        "No such file or directory (os error 2)"), diskOfLatin) ∧
      diskOfLatin.names [encode "d"] = [[0x63, 0x61, 0x66, 0xE9]] := by
  have hfs : diskOfLatin.WellFormed := by decide
  have hdir : diskOfLatin.find (encode "d") .follow = .ok ([encode "d"], .directory 0o755) := by
    simp only [find, locate, walk_eq_walkLinks]
    decide +kernel
  have h : LeadsTo diskOfLatin "d" [encode "d"] 0o755 := ⟨hfs, hdir⟩
  have hnames : shownNames (diskOfLatin.names [encode "d"]) = ["caf\uFFFD"] :=
    shownNames_eq (by decide +kernel) (by decide +kernel)
  have hremove : removeEntry diskOfLatin (Path.join "d" "caf\uFFFD") =
      (.error .noEntry, diskOfLatin) := by
    simp only [removeEntry, find, locate, walk_eq_walkLinks]
    rfl
  refine ⟨hfs, hdir, ?_, by decide⟩
  rw [cleanup, h.cleanupWith_eq, hnames, sweep, hremove]
  rfl

end TestRig.Files
