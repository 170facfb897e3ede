/-
  TestRig.Proofs.FileSystem.Following

  Following paths in a file system with symbolic links.  Names are followed one after the
  other (`walk_enter`, `walk_follow`); the last one is followed from where the others lead
  (`walk_append_singleton`).  So the entry of a directory is found below the directory's
  path exactly as it is found in the directory itself (`find_join_iff`).  Where the names of
  a closed path lead is computed by a recursion on the links (`walk_eq_walkLinks`).
-/
import TestRig.Proofs.FileSystem.PathText

namespace TestRig.FileSystem

open Text (encode)

variable {fs : FileSystem}

/-! ## One name after the other -/

/-- The name is looked up in its directory, if the system takes a name of that length. -/
structure Enterable (name : Name) : Prop where
  ne_here : name ≠ here
  ne_above : name ≠ above
  length_le : name.length ≤ 255

section
variable {last : LastLink} {links : Nat} {loc dest : Location} {name : Name} {rest : List Name}

theorem walk_here (hdir : fs.HasDirectory loc) :
    fs.walk last links loc (here :: rest) = fs.walk last links loc rest := by
  obtain ⟨mode, hmode⟩ := hdir
  rw [walk, hmode]
  exact if_pos rfl

theorem walk_above (hdir : fs.HasDirectory loc) :
    fs.walk last links loc (above :: rest) = fs.walk last links loc.dropLast rest := by
  obtain ⟨mode, hmode⟩ := hdir
  have hne : above ≠ here := by decide
  rw [walk, hmode]
  simp only [hne, if_true, if_false]

/-- What is no link is entered. -/
theorem walk_enter (hdir : fs.HasDirectory loc) (hname : Enterable name)
    (hlink : ∀ target, fs.lookup (loc ++ [name]) ≠ some (.link target)) :
    fs.walk last links loc (name :: rest) = fs.walk last links (loc ++ [name]) rest := by
  obtain ⟨mode, hmode⟩ := hdir
  rw [walk, hmode]
  simp only [hname.ne_here, hname.ne_above, Nat.not_lt.2 hname.length_le, if_false]

/-- A link that stands last may be what the names lead to. -/
theorem walk_keep {target : Bytes} (hdir : fs.HasDirectory loc) (hname : Enterable name)
    (hlink : fs.lookup (loc ++ [name]) = some (.link target)) :
    fs.walk .keep links loc [name] = .ok (loc ++ [name]) := by
  obtain ⟨mode, hmode⟩ := hdir
  rw [walk, hmode]
  simp only [hname.ne_here, hname.ne_above, Nat.not_lt.2 hname.length_le, if_false, hlink]
  rfl

/-- Where a link leads from the directory that holds it. -/
def linkStart (loc : Location) (target : Bytes) : Location :=
  if target.head? = some slash then [] else loc

/-- Any other link is followed. -/
theorem walk_follow {target : Bytes} (hdir : fs.HasDirectory loc) (hname : Enterable name)
    (hlink : fs.lookup (loc ++ [name]) = some (.link target))
    (hlast : (rest.isEmpty && decide (last = .keep)) = false) :
    fs.walk last (links + 1) loc (name :: rest) =
      fs.walk last links (linkStart loc target) (stepsOf target ++ rest) := by
  obtain ⟨mode, hmode⟩ := hdir
  rw [walk, hmode]
  simp only [hname.ne_here, hname.ne_above, Nat.not_lt.2 hname.length_le, if_false, hlink, hlast]
  rfl

theorem walk_tooManyLinks {target : Bytes} (hdir : fs.HasDirectory loc) (hname : Enterable name)
    (hlink : fs.lookup (loc ++ [name]) = some (.link target))
    (hlast : (rest.isEmpty && decide (last = .keep)) = false) :
    fs.walk last 0 loc (name :: rest) = .error .tooManyLinks := by
  obtain ⟨mode, hmode⟩ := hdir
  rw [walk, hmode]
  simp only [hname.ne_here, hname.ne_above, Nat.not_lt.2 hname.length_le, if_false, hlink, hlast]
  rfl

theorem walk_tooLong (hdir : fs.HasDirectory loc) (hhere : name ≠ here) (habove : name ≠ above)
    (hlong : 255 < name.length) :
    fs.walk last links loc (name :: rest) = .error .nameTooLong := by
  obtain ⟨mode, hmode⟩ := hdir
  rw [walk, hmode]
  simp only [hhere, habove, hlong, if_true, if_false]

/-- Names are followed in directories alone. -/
theorem hasDirectory_of_walk (h : fs.walk last links loc (name :: rest) = .ok dest) :
    fs.HasDirectory loc := by
  rw [walk] at h
  split at h
  · exact ⟨_, ‹_›⟩
  · cases h
  · cases h

end

/-- One name is followed by one step, unless it is a link that is to be followed. -/
theorem walk_singleton {last : LastLink} {links : Nat} {loc dest : Location} {name : Name}
    (hlast : last = .keep ∨ name = here) :
    fs.walk last links loc [name] = .ok dest ↔ fs.HasDirectory loc ∧
      (name = here ∨ name = above ∨ name.length ≤ 255) ∧ dest = stepTo loc name := by
  by_cases hdir : fs.HasDirectory loc
  · by_cases hhere : name = here
    · rw [hhere, walk_here hdir, walk, stepTo_here]
      simp [hdir, eq_comm]
    by_cases habove : name = above
    · rw [habove, walk_above hdir, walk, stepTo, if_neg (by decide), if_pos rfl]
      simp [hdir, eq_comm]
    by_cases hlong : 255 < name.length
    · rw [walk_tooLong hdir hhere habove hlong]
      simp [hhere, habove, Nat.not_le.2 hlong]
    have hname : Enterable name := ⟨hhere, habove, Nat.not_lt.1 hlong⟩
    have hwalk : fs.walk last links loc [name] = .ok (loc ++ [name]) := by
      by_cases hlink : ∃ target, fs.lookup (loc ++ [name]) = some (.link target)
      · obtain ⟨target, hlink⟩ := hlink
        rw [hlast.resolve_right hhere, walk_keep hdir hname hlink]
      · rw [walk_enter hdir hname fun target heq => hlink ⟨target, heq⟩, walk]
    rw [hwalk, stepTo_of_ne loc hhere habove]
    simp [hdir, hname.length_le, eq_comm]
  · have hwalk : fs.walk last links loc [name] ≠ .ok dest := fun h => hdir (hasDirectory_of_walk h)
    simp [hwalk, hdir]

/-- The last one of some names is followed from where the others lead, unless it is a link that is
to be followed. -/
theorem walk_append_singleton {last : LastLink} {links : Nat} {loc dest : Location}
    {names : List Name} {name : Name} (hlast : last = .keep ∨ name = here) :
    fs.walk last links loc (names ++ [name]) = .ok dest ↔
      ∃ dir, fs.walk .follow links loc names = .ok dir ∧ fs.HasDirectory dir ∧
        (name = here ∨ name = above ∨ name.length ≤ 255) ∧ dest = stepTo dir name := by
  fun_induction fs.walk .follow links loc names with
  | case1 links loc =>
    rw [List.nil_append, walk_singleton hlast]
    simp
  | case2 _ _ _ _ hdir ih =>
    rw [List.cons_append, walk_here ⟨_, hdir⟩]
    exact ih
  | case3 _ _ _ _ hdir _ ih =>
    rw [List.cons_append, walk_above ⟨_, hdir⟩]
    exact ih
  | case4 links loc first rest _ hdir hhere habove hlong =>
    rw [List.cons_append, walk_tooLong ⟨_, hdir⟩ hhere habove hlong]
    simp
  | case5 links loc first rest _ hdir hhere habove hlong next target hlink hkeep => simp at hkeep
  | case6 loc first rest _ hdir hhere habove hlong next target hlink _ =>
    have hmore : ((rest ++ [name]).isEmpty && decide (last = .keep)) = false := by simp
    rw [List.cons_append,
      walk_tooManyLinks ⟨_, hdir⟩ ⟨hhere, habove, Nat.not_lt.1 hlong⟩ hlink hmore]
    simp
  | case7 loc first rest _ hdir hhere habove hlong next target hlink _ links start ih =>
    have hmore : ((rest ++ [name]).isEmpty && decide (last = .keep)) = false := by simp
    rw [List.cons_append, walk_follow ⟨_, hdir⟩ ⟨hhere, habove, Nat.not_lt.1 hlong⟩ hlink hmore,
      ← List.append_assoc]
    exact ih
  | case8 links loc first rest _ hdir hhere habove hlong next hlink ih =>
    rw [List.cons_append, walk_enter ⟨_, hdir⟩ ⟨hhere, habove, Nat.not_lt.1 hlong⟩ hlink]
    exact ih
  | case9 links loc first rest node hother hnode =>
    refine iff_of_false (fun h => ?_) (by simp)
    obtain ⟨mode, hmode⟩ := hasDirectory_of_walk h
    exact hother mode (Option.some.inj (hnode.symm.trans hmode))
  | case10 links loc first rest hnode =>
    refine iff_of_false (fun h => ?_) (by simp)
    obtain ⟨mode, hmode⟩ := hasDirectory_of_walk h
    rw [hnode] at hmode
    cases hmode

/-! ## Paths -/

/-- The system takes the path at all. -/
structure Admissible (path : Bytes) : Prop where
  nulFree : 0 ∉ path
  ne_nil : path ≠ []
  length_lt : path.length < 4096

theorem locate_eq_ok_iff_walk {path : Bytes} {last : LastLink} {loc : Location} :
    fs.locate path last = .ok loc ↔
      Admissible path ∧ fs.walk last linkLimit (fs.startOf path) (stepsOf path) = .ok loc := by
  unfold locate
  by_cases hnul : 0 ∈ path
  · simpa [hnul] using fun h : Admissible path => absurd hnul h.nulFree
  by_cases hne : path = []
  · simpa [hne] using fun h : Admissible [] => absurd rfl h.ne_nil
  by_cases hlen : 4096 ≤ path.length
  · simpa [hnul, hne, hlen] using fun h : Admissible path => absurd hlen (Nat.not_le.2 h.length_lt)
  have hpath : Admissible path := ⟨hnul, hne, Nat.lt_of_not_le hlen⟩
  simp [hnul, hne, hlen, hpath, startOf]

theorem find_eq_ok_iff_locate {path : Bytes} {last : LastLink} {loc : Location} {node : Node} :
    fs.find path last = .ok (loc, node) ↔
      fs.locate path last = .ok loc ∧ fs.lookup loc = some node := by
  unfold find
  cases hlocate : fs.locate path last with
  | error e => simp [bind, Except.bind]
  | ok dest =>
    simp only [bind, Except.bind]
    cases hnode : fs.lookup dest with
    | none =>
      have hother : dest = loc → fs.lookup loc ≠ some node := by
        rintro rfl
        simp [hnode]
      simpa using hother
    | some found =>
      simp only [Except.ok.injEq, Prod.mk.injEq]
      exact and_congr_right fun heq => by rw [← heq, hnode, Option.some.injEq]

/-! ## Entries of a directory -/

/-- The names along a path, without the one that a slash at its end stands for. -/
def namesAlong (path : Bytes) : List Name := (Text.splitAt slash path).filter (!·.isEmpty)

theorem stepsOf_eq (path : Bytes) :
    stepsOf path = namesAlong path ∨ stepsOf path = namesAlong path ++ [here] := by
  unfold stepsOf namesAlong
  simp only
  split
  · exact .inr rfl
  · exact .inl rfl

theorem slash_notMem_encode {name : String} (h : Path.IsName name) : slash ∉ encode name := by
  intro hmem
  obtain ⟨c, hc, hbyte⟩ := List.mem_flatMap.1 hmem
  have hcode := (Text.eq_of_mem_utf8EncodeChar (by decide) hbyte).1
  obtain rfl : '/' = c := Char.toNat_inj.1 hcode
  exact h.slashless hc

/-- A path ends in a slash as text or as bytes. -/
theorem getLast?_encode_eq_slash_iff (path : String) :
    (encode path).getLast? = some slash ↔ path.toList.getLast? = some '/' := by
  rcases List.eq_nil_or_concat path.toList with hnil | ⟨front, c, hconcat⟩
  · simp [encode, hnil]
  · have hne : String.utf8EncodeChar c ≠ [] := String.utf8EncodeChar_ne_nil
    have hbytes : encode path = Text.encodeChars front ++ String.utf8EncodeChar c := by
      simp [encode, hconcat]
    rw [hbytes, List.getLast?_append_of_ne_nil _ hne, hconcat, List.concat_eq_append,
      List.getLast?_concat, Option.some.injEq]
    constructor
    · intro hlast
      have hcode := (Text.eq_of_mem_utf8EncodeChar (by decide) (List.mem_of_getLast? hlast)).1
      have hchar : '/' = c := Char.toNat_inj.1 hcode
      exact hchar.symm
    · rintro rfl
      decide

/-- The path of an entry is the path of the directory, a slash if that does not end in one, and the
name of the entry. -/
theorem encode_join {dir name : String} (hdir : dir ≠ "") (hname : Path.IsName name) :
    encode (Path.join dir name) =
      if (encode dir).getLast? = some slash then encode dir ++ encode name
      else encode dir ++ slash :: encode name := by
  have habsolute : Path.isAbsolute name.toList = false := by
    rw [Path.isAbsolute, decide_eq_false_iff_not]
    exact fun hhead => hname.slashless (List.mem_of_mem_head? hhead)
  unfold Path.join
  rw [habsolute, Bool.false_or, if_neg (by simpa using hdir)]
  by_cases hslash : dir.toList.getLast? = some '/'
  · rw [if_pos hslash, if_pos ((getLast?_encode_eq_slash_iff dir).2 hslash)]
    simp [encode]
  · rw [if_neg hslash, if_neg fun h => hslash ((getLast?_encode_eq_slash_iff dir).1 h)]
    have hbyte : Text.encodeChars ['/'] = [slash] := by decide
    have htext : (dir ++ "/" ++ name).toList = dir.toList ++ (['/'] ++ name.toList) := by simp
    rw [encode, htext, Text.encodeChars_append, Text.encodeChars_append, hbyte]
    rfl

/-- The path of an entry does not end in a slash. -/
theorem getLast?_encode_join {name : String} (hname : Path.IsName name) (dir : String) :
    (encode (Path.join dir name)).getLast? ≠ some slash := by
  have hne : name.toList ≠ [] := fun hnil => hname.ne_empty (String.toList_injective hnil)
  have hend : ∀ front : List Char, (front ++ name.toList).getLast? ≠ some '/' := by
    intro front hlast
    rw [List.getLast?_append_of_ne_nil front hne] at hlast
    exact hname.slashless (List.mem_of_getLast? hlast)
  rw [Ne, getLast?_encode_eq_slash_iff]
  unfold Path.join
  split
  · exact hend []
  · split
    · rw [String.toList_append]
      exact hend _
    · rw [String.toList_append]
      exact hend _

/-- A path to an entry takes the names to the directory, and then the name of the entry. -/
theorem stepsOf_join {dir name : String} (hdir : dir ≠ "") (hname : Path.IsName name) :
    stepsOf (encode (Path.join dir name)) = namesAlong (encode dir) ++ [encode name] := by
  have hsplit : Text.splitAt slash (encode name) = [encode name] :=
    Text.splitAt_of_notMem (slash_notMem_encode hname)
  have hne : encode name ≠ [] := encode_ne_nil hname
  have hsteps : stepsOf (encode (Path.join dir name)) =
      namesAlong (encode (Path.join dir name)) := by
    unfold stepsOf
    exact if_neg (getLast?_encode_join hname dir)
  rw [hsteps, encode_join hdir hname, namesAlong, namesAlong]
  split
  · rename_i hslash
    obtain ⟨front, hfront⟩ := List.getLast?_eq_some_iff.1 hslash
    rw [hfront, List.append_assoc, List.singleton_append, Text.splitAt_append_sep,
      Text.splitAt_append_sep, hsplit, Text.splitAt_nil]
    simp [hne]
  · rw [Text.splitAt_append_sep, hsplit]
    simp [hne]

theorem startOf_join (fs : FileSystem) {dir name : String} (hdir : dir ≠ "")
    (hname : Path.IsName name) :
    fs.startOf (encode (Path.join dir name)) = fs.startOf (encode dir) := by
  have hne : encode dir ≠ [] := fun hnil =>
    hdir (String.toList_injective (Text.encodeChars_eq_nil_iff.1 hnil))
  unfold startOf
  rw [encode_join hdir hname]
  split <;> rw [List.head?_append_of_ne_nil _ hne]

/-- If the path of an entry is taken, so is the path of the directory. -/
theorem Admissible.of_join {dir name : String} (hdir : dir ≠ "") (hname : Path.IsName name)
    (h : Admissible (encode (Path.join dir name))) : Admissible (encode dir) := by
  have hfront : encode dir <+: encode (Path.join dir name) := by
    rw [encode_join hdir hname]
    split <;> exact List.prefix_append _ _
  have hne : encode dir ≠ [] := fun hnil =>
    hdir (String.toList_injective (Text.encodeChars_eq_nil_iff.1 hnil))
  exact ⟨fun hnul => h.nulFree (hfront.subset hnul), hne,
    Nat.lt_of_le_of_lt hfront.length_le h.length_lt⟩

theorem Admissible.join {dir name : String} (h : Admissible (encode dir)) (hdir : dir ≠ "")
    (hname : Path.IsName name) (hnul : 0 ∉ encode name)
    (hlength : (encode (Path.join dir name)).length < 4096) :
    Admissible (encode (Path.join dir name)) := by
  have hslash : (0 : UInt8) ≠ slash := by decide
  refine ⟨?_, ?_, hlength⟩
  · rw [encode_join hdir hname]
    split <;> simp [h.nulFree, hnul, hslash]
  · rw [encode_join hdir hname]
    split <;> simp [h.ne_nil]

/-- An entry is found below the path of a directory as it is found in the directory, if the path is
not too long then. -/
theorem find_join_iff {dir name : String} (hdir : dir ≠ "") (hname : Path.IsName name)
    {loc : Location} {node : Node} :
    fs.find (encode (Path.join dir name)) .keep = .ok (loc, node) ↔
      ∃ parent mode, fs.find (encode dir) .follow = .ok (parent, .directory mode) ∧
        loc = parent ++ [encode name] ∧ fs.lookup loc = some node ∧
        (encode name).length ≤ 255 ∧ Admissible (encode (Path.join dir name)) := by
  rw [find_eq_ok_iff_locate, locate_eq_ok_iff_walk, startOf_join fs hdir hname,
    stepsOf_join hdir hname, walk_append_singleton (.inl rfl)]
  simp only [find_eq_ok_iff_locate, locate_eq_ok_iff_walk]
  have hstep : ∀ parent, stepTo parent (encode name) = parent ++ [encode name] :=
    fun parent => stepTo_encode parent hname
  -- a slash behind the path of the directory asks for nothing else
  have hslash : ∀ parent mode, fs.lookup parent = some (.directory mode) →
      (fs.walk .follow linkLimit (fs.startOf (encode dir)) (stepsOf (encode dir)) = .ok parent ↔
        fs.walk .follow linkLimit (fs.startOf (encode dir)) (namesAlong (encode dir)) =
          .ok parent) := by
    intro parent mode hmode
    rcases stepsOf_eq (encode dir) with heq | heq
    · rw [heq]
    · rw [heq, walk_append_singleton (.inr rfl)]
      constructor
      · rintro ⟨mid, hwalk, -, -, hmid⟩
        rwa [hmid, stepTo_here]
      · exact fun hwalk => ⟨parent, hwalk, ⟨mode, hmode⟩, .inl rfl, (stepTo_here parent).symm⟩
  constructor
  · rintro ⟨⟨hpath, parent, hwalk, ⟨mode, hmode⟩, hlong, rfl⟩, hnode⟩
    rw [hstep] at hnode ⊢
    refine ⟨parent, mode, ⟨⟨hpath.of_join hdir hname, (hslash parent mode hmode).2 hwalk⟩, hmode⟩,
      rfl, hnode, ?_, hpath⟩
    · exact (hlong.resolve_left (encode_ne_here hname)).resolve_left (encode_ne_above hname)
  · rintro ⟨parent, mode, ⟨⟨-, hwalk⟩, hmode⟩, rfl, hnode, hlong, hpath⟩
    exact ⟨⟨hpath, parent, (hslash parent mode hmode).1 hwalk, ⟨mode, hmode⟩, .inr (.inr hlong),
      (hstep parent).symm⟩, hnode⟩

/-! ## Computing where names lead

`walk` goes down on links and names together, a recursion that `decide` does not unfold.  Two
recursions on the data, one inside the other, give the same. -/

/-- Follows names up to the next link that is to be followed, from where `follow` goes on. -/
def walkNames (fs : FileSystem) (last : LastLink)
    (follow : Location → List Name → Except IoError Location) (loc : Location) :
    List Name → Except IoError Location
  | [] => .ok loc
  | name :: rest =>
    match fs.lookup loc with
    | some (.directory _) =>
      if name = here then walkNames fs last follow loc rest
      else if name = above then walkNames fs last follow loc.dropLast rest
      else if 255 < name.length then .error .nameTooLong
      else
        match fs.lookup (loc ++ [name]) with
        | some (.link target) =>
          if rest.isEmpty && last = .keep then .ok (loc ++ [name])
          else follow (linkStart loc target) (stepsOf target ++ rest)
        | _ => walkNames fs last follow (loc ++ [name]) rest
    | some _ => .error .notDirectory
    | none => .error .noEntry

/-- Follows names through at most so many links. -/
def walkLinks (fs : FileSystem) (last : LastLink) :
    Nat → Location → List Name → Except IoError Location
  | 0 => fs.walkNames last fun _ _ => .error .tooManyLinks
  | links + 1 => fs.walkNames last (walkLinks fs last links)

/-- A link that is to be followed takes one of the links that are left. -/
theorem walk_eq_walkNames (last : LastLink) (links : Nat) (loc : Location) (names : List Name) :
    fs.walk last links loc names =
      fs.walkNames last
        (match links with
          | 0 => fun _ _ => .error .tooManyLinks
          | links + 1 => fs.walk last links) loc names := by
  induction names generalizing loc with
  | nil => rw [walk, walkNames]
  | cons name rest ih =>
    rw [walk, walkNames]
    simp only [ih]
    cases links <;> rfl

/-- What names lead to is computed so by a recursion on the links, and on the names between them. -/
theorem walk_eq_walkLinks (last : LastLink) (links : Nat) :
    fs.walk last links = fs.walkLinks last links := by
  induction links with
  | zero =>
    funext loc names
    rw [walk_eq_walkNames, walkLinks]
  | succ links ih =>
    funext loc names
    rw [walk_eq_walkNames, walkLinks, ← ih]

end TestRig.FileSystem
