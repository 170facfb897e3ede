/-
  TestRig.Proofs.FileSystem.PathText

  The places that the texts of paths name.  A path with a last name leads to an entry of
  that name (`place_of_fileName?`), which stands at the place of its parent
  (`place_parent`), and joining a name to a path leads to the entry of that name below the
  place of the path (`place_join`).
-/
import Mathlib.Data.List.DropRight
import TestRig.FileSystem.Path
import TestRig.Proofs.FileSystem.LinkFree
import TestRig.Proofs.Text.Cutting

namespace TestRig

/-! ## Names -/

namespace Path

/-- The text can be the name of an entry of a directory. -/
structure IsName (name : String) : Prop where
  slashless : '/' ∉ name.toList
  ne_empty : name ≠ ""
  ne_here : name ≠ "."
  ne_above : name ≠ ".."

/-- A path ends in its last name, but for names that stand for nothing. -/
theorem splitAt_of_fileName? {path name : String} (h : fileName? path = some name) :
    IsName name ∧ ∃ above idle, Text.splitAt '/' path.toList = above ++ name.toList :: idle ∧
      ∀ piece ∈ idle, isIdle piece = true := by
  let pieces := Text.splitAt '/' path.toList
  have hsplit : pieces.rdropWhile isIdle ++ pieces.rtakeWhile isIdle = pieces :=
    List.rdropWhile_append_rtakeWhile
  unfold fileName? at h
  split at h
  · rename_i last hlast
    change (pieces.rdropWhile isIdle).getLast? = some last at hlast
    split at h
    · cases h
    · rename_i hdots
      obtain rfl := Option.some.inj h
      obtain ⟨above, habove⟩ := List.getLast?_eq_some_iff.1 hlast
      have hidle : ¬ isIdle last = true := by
        have := List.rdropWhile_last_not isIdle pieces (by simp [habove])
        simpa [habove] using this
      have hlist : pieces = above ++ last :: pieces.rtakeWhile isIdle := by
        simpa [habove] using hsplit.symm
      have hmem : last ∈ pieces := by
        rw [hlist]
        exact List.mem_append_right _ List.mem_cons_self
      have hslash : '/' ∉ last := Text.notMem_of_mem_splitAt hmem
      simp only [isIdle, Bool.or_eq_true, List.isEmpty_iff, decide_eq_true_eq, not_or] at hidle
      refine ⟨⟨by simpa using hslash, ?_, ?_, ?_⟩, above, pieces.rtakeWhile isIdle, ?_, ?_⟩
      · exact fun heq => hidle.1 (by simpa using congrArg String.toList heq)
      · exact fun heq => hidle.2 (by simpa using congrArg String.toList heq)
      · exact fun heq => hdots (by simpa using congrArg String.toList heq)
      · rw [String.toList_ofList]
        exact hlist
      · exact fun piece hpiece => List.mem_rtakeWhile_imp hpiece
  · cases h

theorem isName_of_fileName? {path name : String} (h : fileName? path = some name) :
    Path.IsName name := (splitAt_of_fileName? h).1

/-! ## Pieces -/

/-- The last piece that stands for something is the last name. -/
theorem meaningful_of_fileName? {path name : String} (h : fileName? path = some name) :
    ∃ above, meaningful (Text.splitAt '/' path.toList) = above ++ [name.toList] := by
  unfold fileName? at h
  split at h
  · rename_i last hlast
    split at h
    · cases h
    · obtain rfl := Option.some.inj h
      obtain ⟨above, habove⟩ := List.getLast?_eq_some_iff.1 hlast
      exact ⟨above, by rw [habove, String.toList_ofList]⟩
  · cases h

/-- The pieces that are left out stand for nothing. -/
theorem exists_idle (pieces : List (List Char)) :
    ∃ idle, pieces = meaningful pieces ++ idle ∧ ∀ piece ∈ idle, isIdle piece = true :=
  ⟨pieces.rtakeWhile isIdle, List.rdropWhile_append_rtakeWhile.symm,
    fun _ hpiece => List.mem_rtakeWhile_imp hpiece⟩

theorem meaningful_ne_singleton_nil (pieces : List (List Char)) : meaningful pieces ≠ [[]] := by
  intro h
  have hlast := List.rdropWhile_last_not isIdle pieces
  change pieces.rdropWhile isIdle = [[]] at h
  simp [h, isIdle] at hlast

/-- The parent of a path with a last name: what stands above the name, the root, or the directory in
which relative paths start. -/
theorem parent?_cases {path : String} {above : List (List Char)} {last : List Char}
    (h : meaningful (Text.splitAt '/' path.toList) = above ++ [last]) :
    (meaningful above ≠ [] ∧ parent? path = some (String.ofList (joinPieces (meaningful above)))) ∨
      (meaningful above = [] ∧ path.toList.head? = some '/' ∧ parent? path = some "/") ∨
      (meaningful above = [] ∧ path.toList.head? ≠ some '/' ∧
        (parent? path = some "." ∨ parent? path = some "")) := by
  have hkept : (above ++ [last]).isEmpty = false := by simp
  unfold parent?
  simp only [h, hkept, List.dropLast_concat, Bool.false_eq_true, if_false]
  by_cases hnone : meaningful above = []
  · have hempty : ¬ (!(meaningful above).isEmpty) = true := by simp [hnone]
    simp only [if_neg hempty]
    by_cases habsolute : path.toList.head? = some '/'
    · have hroot : isAbsolute path.toList = true := by simpa [isAbsolute] using habsolute
      exact .inr (.inl ⟨hnone, habsolute, if_pos hroot⟩)
    · have hrelative : ¬ isAbsolute path.toList = true := by simpa [isAbsolute] using habsolute
      refine .inr (.inr ⟨hnone, habsolute, ?_⟩)
      rw [if_neg hrelative]
      split
      · exact .inl rfl
      · exact .inr rfl
  · have hsome : (!(meaningful above).isEmpty) = true := by simpa using hnone
    exact .inl ⟨hnone, if_pos hsome⟩

/-- Pieces that were joined are cut apart again. -/
theorem splitAt_joinPieces {pieces : List (List Char)} (hne : pieces ≠ [])
    (h : ∀ piece ∈ pieces, '/' ∉ piece) : Text.splitAt '/' (joinPieces pieces) = pieces := by
  induction pieces with
  | nil => exact absurd rfl hne
  | cons piece rest ih =>
    have hpiece : Text.splitAt '/' piece = [piece] :=
      Text.splitAt_of_notMem (h piece List.mem_cons_self)
    cases rest with
    | nil => simpa [joinPieces] using hpiece
    | cons next more =>
      have hrest := ih (List.cons_ne_nil next more) fun p hp => h p (List.mem_cons_of_mem _ hp)
      have hjoin : joinPieces (piece :: next :: more) =
          piece ++ '/' :: joinPieces (next :: more) := by
        simp [joinPieces, List.intercalate]
      rw [hjoin, Text.splitAt_append_sep, hpiece, hrest]
      rfl

/-- In front of a slash at the beginning there is an empty piece. -/
theorem head?_eq_slash_iff {text : List Char} :
    text.head? = some '/' ↔ ∃ more, more ≠ [] ∧ Text.splitAt '/' text = [] :: more := by
  cases text with
  | nil => simp
  | cons c text =>
    by_cases hc : c = '/'
    · rw [hc, Text.splitAt_sep]
      exact iff_of_true rfl ⟨_, Text.splitAt_ne_nil '/' text, rfl⟩
    · rw [Text.splitAt_cons_of_ne hc]
      refine iff_of_false (by simpa using hc) ?_
      rintro ⟨more, -, hmore⟩
      cases hpieces : Text.splitAt '/' text with
      | nil => exact absurd hpieces (Text.splitAt_ne_nil '/' text)
      | cons piece rest => simp [hpieces] at hmore

end Path

namespace FileSystem

open Text (encode encodeChars)

/-! ## Names as bytes -/

theorem encode_ne_nil {name : String} (h : Path.IsName name) : encode name ≠ [] := by
  intro hnil
  have : name.toList = [] := Text.encodeChars_eq_nil_iff.1 hnil
  exact h.ne_empty (String.toList_injective this)

theorem encode_ne_here {name : String} (h : Path.IsName name) : encode name ≠ here := fun heq =>
  h.ne_here (Text.encode_injective (heq.trans (by decide : here = encode ".")))

theorem encode_ne_above {name : String} (h : Path.IsName name) : encode name ≠ above := fun heq =>
  h.ne_above (Text.encode_injective (heq.trans (by decide : above = encode "..")))

/-- The name of an entry is followed to the entry. -/
theorem stepTo_encode (loc : Location) {name : String} (h : Path.IsName name) :
    stepTo loc (encode name) = loc ++ [encode name] :=
  stepTo_of_ne loc (encode_ne_here h) (encode_ne_above h)

/-! ## Places of texts -/

/-- The names between the slashes of a text, as bytes. -/
def namesOf (pieces : List (List Char)) : List Name :=
  (pieces.map encodeChars).filter (!·.isEmpty)

theorem namesOf_append (a b : List (List Char)) : namesOf (a ++ b) = namesOf a ++ namesOf b := by
  simp [namesOf]

theorem namesOf_singleton {name : String} (h : Path.IsName name) :
    namesOf [name.toList] = [encode name] := by
  have hne : encodeChars name.toList ≠ [] := encode_ne_nil h
  simp [namesOf, hne, encode]

theorem namesOf_idle {pieces : List (List Char)} (h : ∀ piece ∈ pieces, Path.isIdle piece = true) :
    ∀ name ∈ namesOf pieces, name = here := by
  intro name hname
  obtain ⟨hmem, hne⟩ := List.mem_filter.1 hname
  obtain ⟨piece, hpiece, rfl⟩ := List.mem_map.1 hmem
  have hidle := h piece hpiece
  simp only [Path.isIdle, Bool.or_eq_true, List.isEmpty_iff, decide_eq_true_eq] at hidle
  rcases hidle with rfl | rfl
  · simp at hne
  · decide

/-- The place of a text follows the names between its slashes. -/
theorem place_encode (fs : FileSystem) (path : String) :
    fs.place (encode path) =
      (namesOf (Text.splitAt '/' path.toList)).foldl stepTo (fs.startOf (encode path)) := by
  have hnames : (Text.splitAt slash (encode path)).filter (!·.isEmpty) =
      namesOf (Text.splitAt '/' path.toList) := by
    rw [encode, Text.splitAt_encodeChars '/' (by decide) (by decide), namesOf]
  unfold place stepsOf
  simp only [hnames]
  split
  · rw [List.foldl_append]
    exact foldl_stepTo_here _ (by simp)
  · rfl

/-- A text starts at the root when it starts with a slash. -/
theorem startOf_encode (fs : FileSystem) (path : String) :
    fs.startOf (encode path) = if path.toList.head? = some '/' then [] else fs.current := by
  unfold startOf encode
  cases path.toList with
  | nil => rfl
  | cons c text =>
    by_cases hc : c = '/'
    · subst hc
      rfl
    · have hne : (encodeChars (c :: text)).head? ≠ some slash := by
        intro hhead
        cases hbytes : String.utf8EncodeChar c with
        | nil => exact absurd hbytes String.utf8EncodeChar_ne_nil
        | cons b more =>
          have hb : b = slash := by simpa [hbytes] using hhead
          have hmem : slash ∈ String.utf8EncodeChar c := by simp [hbytes, hb]
          have hcode := (Text.eq_of_mem_utf8EncodeChar (by decide) hmem).1
          exact hc (Char.toNat_inj.1 hcode.symm)
      rw [if_neg hne]
      simp [hc]

/-- A path with a last name leads to an entry of that name. -/
theorem place_of_fileName? (fs : FileSystem) {path name : String}
    (h : Path.fileName? path = some name) :
    ∃ dir, fs.place (encode path) = dir ++ [encode name] := by
  obtain ⟨hname, above, idle, hpieces, hidle⟩ := Path.splitAt_of_fileName? h
  refine ⟨(namesOf above).foldl stepTo (fs.startOf (encode path)), ?_⟩
  rw [place_encode, hpieces, List.append_cons, namesOf_append, namesOf_append,
    namesOf_singleton hname, List.foldl_append, List.foldl_append,
    foldl_stepTo_here _ (namesOf_idle hidle), List.foldl_cons, List.foldl_nil,
    stepTo_encode _ hname]

/-- A name joined to a path leads to the entry of that name at the place of the path. -/
theorem place_join (fs : FileSystem) (base : String) {name : String} (h : Path.IsName name) :
    fs.place (encode (Path.join base name)) = fs.place (encode base) ++ [encode name] := by
  have hname : Text.splitAt '/' name.toList = [name.toList] := Text.splitAt_of_notMem h.slashless
  have habsolute : Path.isAbsolute name.toList = false := by
    rw [Path.isAbsolute, decide_eq_false_iff_not]
    exact fun hhead => h.slashless (List.mem_of_mem_head? hhead)
  -- the names of the joined path are those of the base and the name
  have hfollow : ∀ pieces : List (List Char),
      (namesOf (pieces ++ [name.toList])).foldl stepTo (fs.startOf (encode base)) =
        (namesOf pieces).foldl stepTo (fs.startOf (encode base)) ++ [encode name] := by
    intro pieces
    rw [namesOf_append, namesOf_singleton h, List.foldl_append, List.foldl_cons, List.foldl_nil,
      stepTo_encode _ h]
  unfold Path.join
  rw [habsolute, Bool.false_or]
  by_cases hempty : base = ""
  · subst hempty
    have hstart : fs.startOf (encode name) = fs.startOf (encode "") := by
      rw [startOf_encode, startOf_encode, if_neg, if_neg (by simp)]
      simpa [Path.isAbsolute] using habsolute
    rw [if_pos (by simp), place_encode, hname, hstart]
    exact hfollow []
  have hbase : base.toList ≠ [] := fun hnil => hempty (String.toList_injective hnil)
  have hstart : ∀ more, fs.startOf (encode (base ++ more)) = fs.startOf (encode base) := by
    intro more
    rw [startOf_encode, startOf_encode, String.toList_append, List.head?_append_of_ne_nil _ hbase]
  rw [if_neg (by simpa using hempty)]
  split
  · rename_i hslash
    obtain ⟨front, hfront⟩ := List.getLast?_eq_some_iff.1 hslash
    rw [place_encode, place_encode, hstart, String.toList_append, hfront, List.append_assoc,
      List.singleton_append, Text.splitAt_append_sep, Text.splitAt_append_sep, hname, hfollow,
      Text.splitAt_nil, namesOf_append]
    simp [namesOf]
  · rw [String.append_assoc, place_encode, place_encode, hstart]
    have htext : (base ++ ("/" ++ name)).toList = base.toList ++ '/' :: name.toList := by simp
    rw [htext, Text.splitAt_append_sep, hname, hfollow]

/-! ## Parents -/

/-- Joined pieces that are the beginning of a path start where the path does. -/
theorem startOf_joinPieces (fs : FileSystem) {path : String} {kept more : List (List Char)}
    (hpieces : Text.splitAt '/' path.toList = kept ++ more) (hne : kept ≠ []) (hroot : kept ≠ [[]])
    (hslash : ∀ piece ∈ kept, '/' ∉ piece) :
    fs.startOf (encode (String.ofList (Path.joinPieces kept))) = fs.startOf (encode path) := by
  have hhead : (Path.joinPieces kept).head? = some '/' ↔ path.toList.head? = some '/' := by
    rw [Path.head?_eq_slash_iff, Path.head?_eq_slash_iff, Path.splitAt_joinPieces hne hslash,
      hpieces]
    cases kept with
    | nil => exact absurd rfl hne
    | cons first rest =>
      have hrest : first = [] → rest ≠ [] := by
        rintro rfl rfl
        exact hroot rfl
      simp only [List.cons_append, List.cons.injEq]
      constructor
      · rintro ⟨others, hothers, rfl, rfl⟩
        exact ⟨rest ++ more, by simp [hothers], rfl, rfl⟩
      · rintro ⟨others, -, rfl, -⟩
        exact ⟨rest, hrest rfl, rfl, rfl⟩
  rw [startOf_encode, startOf_encode, String.toList_ofList]
  simp only [hhead]

/-- What has a last name is the entry of that name at the place of its parent. -/
theorem place_parent (fs : FileSystem) {path name : String}
    (h : Path.fileName? path = some name) :
    fs.place (encode path) =
      fs.place (encode ((Path.parent? path).getD ".")) ++ [encode name] := by
  have hname := Path.isName_of_fileName? h
  obtain ⟨above, habove⟩ := Path.meaningful_of_fileName? h
  obtain ⟨behind, hbehind, hidle⟩ := Path.exists_idle (Text.splitAt '/' path.toList)
  obtain ⟨between, hbetween, hidle'⟩ := Path.exists_idle above
  have hpieces : Text.splitAt '/' path.toList =
      Path.meaningful above ++ (between ++ name.toList :: behind) := by
    rw [hbehind, habove]
    conv_lhs => rw [hbetween]
    simp
  -- of the pieces only those above the name and the name itself lead on
  have hplace : fs.place (encode path) =
      (namesOf (Path.meaningful above)).foldl stepTo (fs.startOf (encode path)) ++
        [encode name] := by
    rw [place_encode, hpieces, List.append_cons, namesOf_append, namesOf_append, namesOf_append,
      namesOf_singleton hname, List.foldl_append, List.foldl_append, List.foldl_append,
      foldl_stepTo_here _ (namesOf_idle hidle'), foldl_stepTo_here _ (namesOf_idle hidle),
      List.foldl_cons, List.foldl_nil, stepTo_encode _ hname]
  rw [hplace]
  congr 1
  rcases Path.parent?_cases habove with ⟨hne, hparent⟩ | ⟨hnone, hslash, hparent⟩ |
    ⟨hnone, hslash, hparent⟩
  · have hslashless : ∀ piece ∈ Path.meaningful above, '/' ∉ piece := by
      intro piece hpiece
      have hmem : piece ∈ Text.splitAt '/' path.toList := by
        rw [hpieces]
        exact List.mem_append_left _ hpiece
      exact Text.notMem_of_mem_splitAt hmem
    rw [hparent, Option.getD_some, place_encode, startOf_joinPieces fs hpieces hne
      (Path.meaningful_ne_singleton_nil above) hslashless, String.toList_ofList,
      Path.splitAt_joinPieces hne hslashless]
  · rw [hparent, hnone, startOf_encode, if_pos hslash]
    rfl
  · rw [hnone, startOf_encode, if_neg hslash]
    rcases hparent with hparent | hparent
    · rw [hparent]
      rfl
    · rw [hparent]
      rfl

/-! ## Places tell names apart -/

theorem name_eq_of_place_join_eq {fs : FileSystem} {base name name' : String}
    (hname : Path.IsName name) (hname' : Path.IsName name')
    (h : fs.place (encode (Path.join base name)) = fs.place (encode (Path.join base name'))) :
    name = name' := by
  rw [place_join fs base hname, place_join fs base hname'] at h
  exact Text.encode_injective (List.append_singleton_inj.1 h).2

/-- Paths to one place have one last name. -/
theorem name_eq_of_place_eq {fs : FileSystem} {path path' name name' : String}
    (hname : Path.fileName? path = some name) (hname' : Path.fileName? path' = some name')
    (h : fs.place (encode path) = fs.place (encode path')) : name = name' := by
  obtain ⟨above, habove⟩ := place_of_fileName? fs hname
  obtain ⟨above', habove'⟩ := place_of_fileName? fs hname'
  rw [habove, habove'] at h
  exact Text.encode_injective (List.append_singleton_inj.1 h).2

/-- A path leads to the place of a joined name only if that is its last name. -/
theorem name_eq_of_place_eq_join {fs : FileSystem} {path base name name' : String}
    (hname : Path.fileName? path = some name) (hname' : Path.IsName name')
    (h : fs.place (encode path) = fs.place (encode (Path.join base name'))) : name = name' := by
  obtain ⟨above, habove⟩ := place_of_fileName? fs hname
  rw [habove, place_join fs base hname'] at h
  exact Text.encode_injective (List.append_singleton_inj.1 h).2

end FileSystem

end TestRig
