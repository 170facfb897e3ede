/-
  TestRig.Proofs.FileSystem.Removing

  File systems from which nodes are removed.  A path that is followed to a node afterwards
  was followed to that node before (`Thinned.find`), so no removal redirects a path,
  whatever symbolic links there are.  In a well-formed file system every node lies at or
  below an entry of each directory above it, so a directory is emptied by removing its
  entries with what is below them (`lookup_emptied`).
-/
import Mathlib.Data.List.Nodup
import TestRig.Proofs.FileSystem.Following
import TestRig.Proofs.Text.Decoding

namespace TestRig.FileSystem

variable {fs fs' fs'' : FileSystem}

/-! ## What is left after a removal -/

theorem entry_ne_root (loc : Location) (name : Name) : loc ++ [name] ≠ [] :=
  List.append_ne_nil_of_right_ne_nil loc (List.cons_ne_nil name [])

theorem lookup_entry (fs : FileSystem) (loc : Location) (name : Name) :
    fs.lookup (loc ++ [name]) = fs.nodes.lookup (loc ++ [name]) :=
  if_neg (entry_ne_root loc name)

/-- The location lies strictly below another one. -/
def Below (loc other : Location) : Prop := loc <+: other ∧ other ≠ loc

instance (loc other : Location) : Decidable (Below loc other) :=
  inferInstanceAs (Decidable (_ ∧ _))

theorem below_of_prefix_append {loc other : Location} {name : Name} (h : loc ++ [name] <+: other) :
    Below loc other := by
  refine ⟨(List.prefix_append loc [name]).trans h, ?_⟩
  rintro rfl
  have hlength := h.length_le
  rw [List.length_append, List.length_singleton] at hlength
  omega

/-- What lies strictly below a location lies at or below one of its entries. -/
theorem Below.exists_entry {loc other : Location} (h : Below loc other) :
    ∃ name, loc ++ [name] <+: other := by
  obtain ⟨⟨rest, rfl⟩, hne⟩ := h
  cases rest with
  | nil => exact absurd (List.append_nil loc) hne
  | cons name rest => exact ⟨name, rest, by simp⟩

/-- Nothing is new or changed, and only nodes at certain locations are gone. -/
structure Thinned (gone : Location → Prop) (before after : FileSystem) : Prop where
  current_eq : after.current = before.current
  lookup : ∀ loc, after.lookup loc = before.lookup loc ∨ gone loc ∧ after.lookup loc = none

namespace Thinned

variable {gone gone' : Location → Prop}

theorem refl (gone : Location → Prop) (fs : FileSystem) : Thinned gone fs fs :=
  ⟨rfl, fun _ => .inl rfl⟩

theorem trans (h : Thinned gone fs fs') (h' : Thinned gone fs' fs'') : Thinned gone fs fs'' := by
  refine ⟨h'.current_eq.trans h.current_eq, fun loc => ?_⟩
  rcases h'.lookup loc with heq' | hgone
  · rw [heq']
    exact h.lookup loc
  · exact .inr hgone

theorem mono (h : Thinned gone fs fs') (hsub : ∀ loc, gone loc → gone' loc) :
    Thinned gone' fs fs' :=
  ⟨h.current_eq, fun loc => (h.lookup loc).imp_right fun ⟨hgone, hnone⟩ => ⟨hsub loc hgone, hnone⟩⟩

/-- All nodes at certain locations are gone. -/
theorem of_lookup [DecidablePred gone] (hcurrent : fs'.current = fs.current)
    (hlookup : ∀ loc, fs'.lookup loc = if gone loc then none else fs.lookup loc) :
    Thinned gone fs fs' := by
  refine ⟨hcurrent, fun loc => ?_⟩
  rw [hlookup loc]
  split
  · exact .inr ⟨‹_›, rfl⟩
  · exact .inl rfl

/-- What still stands stood there before. -/
theorem lookup_of_eq_some (h : Thinned gone fs fs') {loc : Location} {node : Node}
    (hnode : fs'.lookup loc = some node) : fs.lookup loc = some node := by
  rcases h.lookup loc with heq | ⟨-, hnone⟩
  · rw [← heq, hnode]
  · rw [hnone] at hnode
    cases hnode

theorem lookup_eq (h : Thinned gone fs fs') {loc : Location} (hloc : ¬ gone loc) :
    fs'.lookup loc = fs.lookup loc :=
  (h.lookup loc).resolve_right fun ⟨hgone, _⟩ => hloc hgone

/-- Where names lead to a node they led there before. -/
theorem walk (h : Thinned gone fs fs') {last : LastLink} {links : Nat} {loc dest : Location}
    {names : List Name} {node : Node} (hwalk : fs'.walk last links loc names = .ok dest)
    (hnode : fs'.lookup dest = some node) : fs.walk last links loc names = .ok dest := by
  have hdirs : ∀ {loc mode}, fs'.lookup loc = some (.directory mode) → fs.HasDirectory loc :=
    fun hdir => ⟨_, h.lookup_of_eq_some hdir⟩
  -- along the steps that are taken afterwards
  fun_induction fs'.walk last links loc names with
  | case1 => rwa [FileSystem.walk]
  | case2 _ _ _ _ hdir ih => rw [walk_here (hdirs hdir), ih hwalk]
  | case3 _ _ _ _ hdir _ ih => rw [walk_above (hdirs hdir), ih hwalk]
  | case4 => cases hwalk
  | case5 links loc name rest _ hdir hhere habove hlong next target hlink hlast =>
    obtain ⟨hrest, rfl⟩ : rest = [] ∧ last = .keep := by simpa using hlast
    obtain rfl := Except.ok.inj hwalk
    rw [hrest, walk_keep (hdirs hdir) ⟨hhere, habove, Nat.not_lt.1 hlong⟩
      (h.lookup_of_eq_some hlink)]
  | case6 => cases hwalk
  | case7 loc name rest _ hdir hhere habove hlong next target hlink hlast links start ih =>
    rw [walk_follow (hdirs hdir) ⟨hhere, habove, Nat.not_lt.1 hlong⟩
      (h.lookup_of_eq_some hlink) (by simpa using hlast)]
    exact ih hwalk
  | case8 links loc name rest _ hdir hhere habove hlong next hlink ih =>
    by_cases hbefore : ∃ target, fs.lookup next = some (.link target)
    · -- a link is gone, and nothing is found beyond it
      obtain ⟨target, hbefore⟩ := hbefore
      have hnone : fs'.lookup next = none := by
        rcases h.lookup next with heq | ⟨-, hnone⟩
        · exact absurd (heq.trans hbefore) (hlink target)
        · exact hnone
      cases rest with
      | nil =>
        obtain rfl : next = dest := Except.ok.inj (by rwa [FileSystem.walk] at hwalk)
        rw [hnone] at hnode
        cases hnode
      | cons first more =>
        obtain ⟨mode, hmode⟩ := hasDirectory_of_walk hwalk
        rw [hnone] at hmode
        cases hmode
    · have hplain : ∀ target, fs.lookup next ≠ some (.link target) :=
        fun target heq => hbefore ⟨target, heq⟩
      rw [walk_enter (hdirs hdir) ⟨hhere, habove, Nat.not_lt.1 hlong⟩ hplain]
      exact ih hwalk
  | case9 => cases hwalk
  | case10 => cases hwalk

/-- What a path leads to it led to before. -/
theorem find (h : Thinned gone fs fs') {path : Bytes} {last : LastLink} {loc : Location}
    {node : Node} (hfind : fs'.find path last = .ok (loc, node)) :
    fs.find path last = .ok (loc, node) := by
  obtain ⟨hlocate, hnode⟩ := find_eq_ok_iff_locate.1 hfind
  obtain ⟨hpath, hwalk⟩ := locate_eq_ok_iff_walk.1 hlocate
  have hstart : fs'.startOf path = fs.startOf path := by
    unfold startOf
    rw [h.current_eq]
  rw [hstart] at hwalk
  exact find_eq_ok_iff_locate.2
    ⟨locate_eq_ok_iff_walk.2 ⟨hpath, h.walk hwalk hnode⟩, h.lookup_of_eq_some hnode⟩

end Thinned

theorem thinned_erase (fs : FileSystem) {loc : Location} (hroot : loc ≠ []) :
    Thinned (· = loc) fs (fs.erase loc) :=
  .of_lookup rfl fun other => lookup_erase fs other hroot

theorem thinned_eraseTree (fs : FileSystem) {loc : Location} (hroot : loc ≠ []) :
    Thinned (loc <+: ·) fs (fs.eraseTree loc) :=
  .of_lookup rfl fun other => lookup_eraseTree fs other hroot

/-! ## Well-formed file systems -/

/-- Bytes that can be the name of an entry: any but the slash and the byte that ends a path. -/
structure EntryName (name : Name) : Prop extends Enterable name where
  ne_nil : name ≠ []
  slashless : slash ∉ name
  nulFree : 0 ∉ name

instance (name : Name) : Decidable (EntryName name) :=
  decidable_of_iff (name ≠ here ∧ name ≠ above ∧ name.length ≤ 255 ∧ name ≠ [] ∧ slash ∉ name ∧
      0 ∉ name)
    ⟨fun ⟨hhere, habove, hlength, hnil, hslash, hnul⟩ =>
      ⟨⟨hhere, habove, hlength⟩, hnil, hslash, hnul⟩,
    fun h => ⟨h.ne_here, h.ne_above, h.length_le, h.ne_nil, h.slashless, h.nulFree⟩⟩

/-- Each node is an entry of a directory, and no location has two. -/
structure WellFormed (fs : FileSystem) : Prop where
  distinct : (fs.nodes.map Prod.fst).Nodup
  entry : ∀ stored ∈ fs.nodes, ∃ loc name, stored.1 = loc ++ [name] ∧ EntryName name ∧
    fs.HasDirectory loc

/-- The nodes can be checked one by one. -/
theorem wellFormed_iff : fs.WellFormed ↔ (fs.nodes.map Prod.fst).Nodup ∧
    ∀ stored ∈ fs.nodes, stored.1 ≠ [] ∧ EntryName (stored.1.getLastD []) ∧
      (fs.lookup stored.1.dropLast).any Node.isDirectory = true := by
  have hdirectory : ∀ loc, (fs.lookup loc).any Node.isDirectory = true ↔ fs.HasDirectory loc := by
    intro loc
    unfold HasDirectory
    cases hnode : fs.lookup loc with
    | none => simp
    | some node => cases node <;> simp [Node.isDirectory]
  simp only [hdirectory]
  constructor
  · intro h
    refine ⟨h.distinct, fun stored hstored => ?_⟩
    obtain ⟨loc, name, heq, hname, hdir⟩ := h.entry stored hstored
    rw [heq, List.getLastD_concat, List.dropLast_concat]
    exact ⟨entry_ne_root loc name, hname, hdir⟩
  · rintro ⟨hdistinct, hentry⟩
    refine ⟨hdistinct, fun stored hstored => ?_⟩
    obtain ⟨hne, hname, hdir⟩ := hentry stored hstored
    refine ⟨stored.1.dropLast, stored.1.getLastD [], ?_, hname, hdir⟩
    rw [List.getLastD_eq_getLast?, List.getLast?_eq_getLast_of_ne_nil hne]
    exact (List.dropLast_append_getLast hne).symm

instance (fs : FileSystem) : Decidable fs.WellFormed := decidable_of_iff' _ wellFormed_iff

/-- The entries of a directory are the nodes one name below it. -/
theorem mem_names_iff {loc : Location} {name : Name} :
    name ∈ fs.names loc ↔ ∃ node, fs.lookup (loc ++ [name]) = some node := by
  rw [lookup_entry, names, List.mem_filterMap]
  constructor
  · rintro ⟨⟨l, node⟩, hmem, hname⟩
    obtain ⟨hloc, hlast⟩ := Option.ite_none_right_eq_some.1 hname
    obtain ⟨front, rfl⟩ := List.getLast?_eq_some_iff.1 hlast
    obtain rfl : front = loc := by simpa using hloc
    cases hfound : fs.nodes.lookup (front ++ [name]) with
    | some found => exact ⟨found, rfl⟩
    | none =>
      have hother := List.lookup_eq_none_iff.1 hfound _ hmem
      simp at hother
  · rintro ⟨node, hnode⟩
    obtain ⟨before, after, hnodes, -⟩ := List.lookup_eq_some_iff.1 hnode
    exact ⟨(loc ++ [name], node), by simp [hnodes], by simp⟩

namespace WellFormed

theorem nodup_names (h : fs.WellFormed) (loc : Location) : (fs.names loc).Nodup := by
  -- the names are the last parts of some of the locations, which all begin in the same way
  have hnames : fs.names loc = (fs.nodes.map Prod.fst).filterMap
      fun l => if l.dropLast = loc then l.getLast? else none := by
    rw [List.filterMap_map]
    rfl
  rw [hnames]
  refine List.Nodup.filterMap ?_ h.distinct
  intro l l' name hname hname'
  obtain ⟨hfront, hlast⟩ := Option.ite_none_right_eq_some.1 hname
  obtain ⟨hfront', hlast'⟩ := Option.ite_none_right_eq_some.1 hname'
  obtain ⟨front, rfl⟩ := List.getLast?_eq_some_iff.1 hlast
  obtain ⟨front', rfl⟩ := List.getLast?_eq_some_iff.1 hlast'
  rw [List.dropLast_concat] at hfront hfront'
  rw [hfront, hfront']

theorem of_lookup (h : fs.WellFormed) {loc : Location} {name : Name} {node : Node}
    (hnode : fs.lookup (loc ++ [name]) = some node) : EntryName name ∧ fs.HasDirectory loc := by
  rw [lookup_entry] at hnode
  obtain ⟨before, after, hnodes, -⟩ := List.lookup_eq_some_iff.1 hnode
  obtain ⟨dir, last, heq, hname, hdir⟩ := h.entry (loc ++ [name], node) (by simp [hnodes])
  obtain ⟨rfl, rfl⟩ := List.append_singleton_inj.1 heq
  exact ⟨hname, hdir⟩

/-- Above every node there are directories. -/
theorem hasDirectory_of_below (h : fs.WellFormed) {loc other : Location} {node : Node}
    (hbelow : Below loc other) (hnode : fs.lookup other = some node) : fs.HasDirectory loc := by
  obtain ⟨⟨rest, rfl⟩, hne⟩ := hbelow
  induction rest using List.reverseRecOn generalizing node with
  | nil => exact absurd (List.append_nil loc) hne
  | append_singleton rest name ih =>
    rw [← List.append_assoc] at hnode
    obtain ⟨mode, hmode⟩ := (h.of_lookup hnode).2
    by_cases hrest : rest = []
    · rw [hrest, List.append_nil] at hmode
      exact ⟨mode, hmode⟩
    · exact ih hmode (by simpa using hrest)

end WellFormed

/-! ## Emptied directories -/

/-- Takes away everything below a directory: its entries, each with what is below it. -/
def emptied (fs : FileSystem) (loc : Location) : FileSystem :=
  (fs.names loc).foldl (fun fs name => fs.eraseTree (loc ++ [name])) fs

theorem current_emptied (fs : FileSystem) (loc : Location) :
    (fs.emptied loc).current = fs.current :=
  List.foldlRecOn (motive := fun after : FileSystem => after.current = fs.current)
    (fs.names loc) _ rfl fun _ h _ _ => h

theorem lookup_foldl_eraseTree (fs : FileSystem) (loc : Location) (names : List Name)
    (other : Location) :
    (names.foldl (fun fs name => fs.eraseTree (loc ++ [name])) fs).lookup other =
      if ∃ name ∈ names, loc ++ [name] <+: other then none else fs.lookup other := by
  induction names generalizing fs with
  | nil => simp
  | cons name names ih =>
    rw [List.foldl_cons, ih, lookup_eraseTree fs other (entry_ne_root loc name)]
    by_cases hfirst : loc ++ [name] <+: other
    · simp [hfirst]
    · simp [hfirst]

/-- Below an emptied directory there is nothing, and all else is as it was. -/
theorem lookup_emptied (h : fs.WellFormed) (loc other : Location) :
    (fs.emptied loc).lookup other = if Below loc other then none else fs.lookup other := by
  rw [emptied, lookup_foldl_eraseTree]
  by_cases hbelow : Below loc other
  · obtain ⟨name, hname⟩ := hbelow.exists_entry
    rw [if_pos hbelow]
    split
    · rfl
    · rename_i hnone
      -- a node there would lie at or below an entry
      cases hnode : fs.lookup other with
      | none => rfl
      | some node =>
        have hentry : ∃ node, fs.lookup (loc ++ [name]) = some node := by
          by_cases hself : other = loc ++ [name]
          · exact ⟨node, hself ▸ hnode⟩
          · obtain ⟨mode, hmode⟩ := h.hasDirectory_of_below ⟨hname, hself⟩ hnode
            exact ⟨_, hmode⟩
        exact absurd ⟨name, mem_names_iff.2 hentry, hname⟩ hnone
  · have hnone : ¬ ∃ name ∈ fs.names loc, loc ++ [name] <+: other :=
      fun ⟨name, _, hname⟩ => hbelow (below_of_prefix_append hname)
    rw [if_neg hbelow, if_neg hnone]

end TestRig.FileSystem
