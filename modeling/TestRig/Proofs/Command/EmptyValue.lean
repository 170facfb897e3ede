/-
  TestRig.Proofs.Command.EmptyValue

  What an empty value does to the words of a command.  A template is laid out as its first
  gap and blocks of a piece and the gap behind it, where a gap is made of spaces and holes
  of the name.  Filling and deleting the holes differ in the gaps alone
  (`render_emptied_laidOut`), and the words are the same when each gap between two pieces
  keeps a space if it had one (`words_lined_eq_iff`).
-/
import TestRig.Proofs.Command.Gaps
import TestRig.Proofs.Text.Words

namespace TestRig.Template

open Text

variable {name : String} {pieces : List Piece}

/-! ## Blocks -/

/-- A piece and the gap behind it. -/
abbrev Block := Piece × List Piece

/-- The text of blocks whose gaps are as many spaces as `size` says. -/
def lined (size : List Piece → Nat) (blocks : List Block) : List Char :=
  blocks.flatMap fun block => block.1.text ++ List.replicate (size block.2) ' '

variable {size other : List Piece → Nat} {block : Block} {blocks : List Block}

@[simp] theorem lined_nil (size : List Piece → Nat) : lined size [] = [] := rfl

theorem lined_cons (size : List Piece → Nat) (block : Block) (blocks : List Block) :
    lined size (block :: blocks) =
      block.1.text ++ (List.replicate (size block.2) ' ' ++ lined size blocks) := by
  rw [lined, List.flatMap_cons, List.append_assoc]
  rfl

theorem startsWord_text {piece : Piece} (h : piece ≠ space) : StartsWord piece.text := by
  cases piece with
  | char c => exact ⟨c, [], rfl, fun hc => h (hc ▸ rfl)⟩
  | hole name => exact ⟨'\x7b', _, rfl, by decide⟩

theorem endsWord_text {piece : Piece} (h : piece ≠ space) : EndsWord piece.text := by
  cases piece with
  | char c => exact ⟨[], c, rfl, fun hc => h (hc ▸ rfl)⟩
  | hole name => exact ⟨'\x7b' :: name.toList, '\x7d', rfl, by decide⟩

theorem startsWord_lined (size : List Piece → Nat) (h : block.1 ≠ space) (blocks : List Block) :
    StartsWord (lined size (block :: blocks)) := by
  rw [lined_cons]
  exact (startsWord_text h).append _

/-- Behind a gap with spaces the words start anew. -/
theorem words_lined_of_ne_zero (h : size block.2 ≠ 0) :
    words (lined size (block :: blocks)) = words block.1.text ++ words (lined size blocks) := by
  rw [lined_cons, words_append_spaces_append _ _ h]

theorem lined_of_eq_zero (h : size block.2 = 0) :
    lined size (block :: blocks) = block.1.text ++ lined size blocks := by
  rw [lined_cons, h, List.replicate_zero, List.nil_append]

theorem words_lined_singleton (size : List Piece → Nat) (block : Block) :
    words (lined size [block]) = words block.1.text := by
  rw [lined_cons, lined_nil, List.append_nil, words_append_spaces]

/-- Where a gap has no space the words on both sides are joined. -/
theorem length_words_lined_of_eq_zero {next : Block} (h : size block.2 = 0)
    (hblock : block.1 ≠ space) (hnext : next.1 ≠ space) (blocks : List Block) :
    (words (lined size (block :: next :: blocks))).length + 1 =
      (words block.1.text).length + (words (lined size (next :: blocks))).length := by
  rw [lined_of_eq_zero h]
  exact length_words_append (endsWord_text hblock) (startsWord_lined size hnext blocks)

/-- With fewer gaps there are no more words. -/
theorem length_words_lined_le (hfewer : ∀ gap, other gap = 0 → size gap = 0)
    (hblocks : ∀ block ∈ blocks, block.1 ≠ space) :
    (words (lined size blocks)).length ≤ (words (lined other blocks)).length := by
  induction blocks with
  | nil => exact Nat.le_refl _
  | cons block rest ih =>
    obtain ⟨hblock, hrest⟩ := List.forall_mem_cons.1 hblocks
    cases rest with
    | nil => exact Nat.le_of_eq (by rw [words_lined_singleton, words_lined_singleton])
    | cons next rest =>
      have hnext : next.1 ≠ space := hrest next List.mem_cons_self
      have hle := ih hrest
      -- a gap without a space costs one word, and `size` has at least those that `other` has
      by_cases hsize : size block.2 = 0
      · have hjoined := length_words_lined_of_eq_zero hsize hblock hnext rest
        by_cases hother : other block.2 = 0
        · have hjoined' := length_words_lined_of_eq_zero hother hblock hnext rest
          omega
        · rw [words_lined_of_ne_zero hother, List.length_append]
          omega
      · rw [words_lined_of_ne_zero hsize, words_lined_of_ne_zero (mt (hfewer block.2) hsize),
          List.length_append, List.length_append]
        omega

/-- The words are the same when no gap between two blocks is lost. -/
theorem words_lined_eq_iff (hfewer : ∀ gap, other gap = 0 → size gap = 0)
    (hblocks : ∀ block ∈ blocks, block.1 ≠ space) :
    words (lined size blocks) = words (lined other blocks) ↔
      ∀ block ∈ blocks.dropLast, other block.2 ≠ 0 → size block.2 ≠ 0 := by
  induction blocks with
  | nil => simp
  | cons block rest ih =>
    obtain ⟨hblock, hrest⟩ := List.forall_mem_cons.1 hblocks
    cases rest with
    | nil => simp [words_lined_singleton]
    | cons next rest =>
      have hnext : next.1 ≠ space := hrest next List.mem_cons_self
      rw [List.dropLast_cons_cons, List.forall_mem_cons, ← ih hrest]
      by_cases hsize : size block.2 = 0
      · by_cases hother : other block.2 = 0
        · -- both texts join the words here
          rw [lined_of_eq_zero hsize, lined_of_eq_zero hother,
            words_append_inj (endsWord_text hblock) (startsWord_lined size hnext rest)
              (startsWord_lined other hnext rest)]
          simp [hother]
        · -- a word is missing, and the blocks behind cannot make up for it
          have hle := length_words_lined_le hfewer hrest
          have hjoined := length_words_lined_of_eq_zero hsize hblock hnext rest
          refine iff_of_false (fun heq => ?_) fun h => h.1 hother hsize
          rw [heq, words_lined_of_ne_zero hother, List.length_append] at hjoined
          omega
      · -- the words start anew behind this gap in both texts
        rw [words_lined_of_ne_zero hsize, words_lined_of_ne_zero (mt (hfewer block.2) hsize),
          List.append_right_inj]
        simp [hsize]

/-! ## Layout -/

/-- The piece is a space or a hole of the name. -/
def isFiller (name : String) (piece : Piece) : Bool := piece = space || piece = .hole name

theorem isFiller_space (name : String) : isFiller name space = true := by simp [isFiller]

/-- The gap is made of spaces and holes of the name. -/
def Gap (name : String) (pieces : List Piece) : Prop := ∀ piece ∈ pieces, isFiller name piece = true

/-- The gaps of a template that lie between two of its other pieces. -/
def innerGaps (name : String) (pieces : List Piece) : List (List Piece) :=
  (pieces.splitOnP fun piece => !isFiller name piece).tail.dropLast

/-- Pieces laid out as a gap and blocks. -/
def laidOut (gap : List Piece) (blocks : List Block) : List Piece :=
  gap ++ blocks.flatMap fun block => block.1 :: block.2

/-- The blocks have other pieces, and gaps between them. -/
def LaidOut (name : String) (blocks : List Block) : Prop :=
  ∀ block ∈ blocks, isFiller name block.1 = false ∧ Gap name block.2

theorem laidOut_cons (gap : List Piece) (block : Block) (blocks : List Block) :
    laidOut gap (block :: blocks) = gap ++ block.1 :: laidOut block.2 blocks := by
  rw [laidOut, List.flatMap_cons, List.cons_append, laidOut]

theorem exists_laidOut (name : String) (pieces : List Piece) :
    ∃ gap blocks, pieces = laidOut gap blocks ∧ Gap name gap ∧ LaidOut name blocks := by
  induction pieces with
  | nil => exact ⟨[], [], rfl, by simp [Gap], by simp [LaidOut]⟩
  | cons piece rest ih =>
    obtain ⟨gap, blocks, rfl, hgap, hblocks⟩ := ih
    -- a filler belongs to the first gap, any other piece takes that gap behind it
    cases hpiece : isFiller name piece with
    | true => exact ⟨piece :: gap, blocks, rfl, List.forall_mem_cons.2 ⟨hpiece, hgap⟩, hblocks⟩
    | false =>
      refine ⟨[], (piece, gap) :: blocks, rfl, by simp [Gap], ?_⟩
      exact List.forall_mem_cons.2 ⟨⟨hpiece, hgap⟩, hblocks⟩

theorem splitOnP_laidOut {gap : List Piece} (hgap : Gap name gap) (hblocks : LaidOut name blocks) :
    (laidOut gap blocks).splitOnP (fun piece => !isFiller name piece) =
      gap :: blocks.map (·.2) := by
  induction blocks generalizing gap with
  | nil =>
    rw [laidOut, List.flatMap_nil, List.append_nil, List.map_nil]
    exact List.splitOnP_eq_singleton fun piece hpiece => by simp [hgap piece hpiece]
  | cons block rest ih =>
    obtain ⟨⟨hblock, hbehind⟩, hrest⟩ := List.forall_mem_cons.1 hblocks
    rw [laidOut_cons, List.splitOnP_append_cons_of_forall_mem
      (fun piece hpiece => by simp [hgap piece hpiece]) _ (by simp [hblock]), ih hbehind hrest,
      List.map_cons]

theorem forall_innerGaps_laidOut {gap : List Piece} (hgap : Gap name gap)
    (hblocks : LaidOut name blocks) {p : List Piece → Prop} :
    (∀ inner ∈ innerGaps name (laidOut gap blocks), p inner) ↔
      ∀ block ∈ blocks.dropLast, p block.2 := by
  rw [innerGaps, splitOnP_laidOut hgap hblocks, List.tail_cons, ← List.map_dropLast,
    List.forall_mem_map]

/-! ## Templates without the holes of a name -/

/-- Without the holes of the name a gap is as many spaces as it has. -/
theorem render_emptied_gap {gap : List Piece} (hgap : Gap name gap) :
    render (gap.flatMap (putAt name "")) = List.replicate (gap.count space) ' ' := by
  induction gap with
  | nil => rfl
  | cons piece rest ih =>
    obtain ⟨hpiece, hrest⟩ := List.forall_mem_cons.1 hgap
    rw [List.flatMap_cons, render_append, ih hrest]
    obtain rfl | rfl : piece = space ∨ piece = .hole name := by simpa [isFiller] using hpiece
    · rw [putAt_char, List.count_cons_self, List.replicate_succ]
      rfl
    · rw [putAt_hole_self, List.count_cons_of_ne (by simp)]
      rfl

theorem putAt_of_not_filler {piece : Piece} (h : isFiller name piece = false) (value : String) :
    putAt name value piece = [piece] := by
  rw [putAt, if_neg]
  rintro rfl
  simp [isFiller] at h

/-- What works in the gaps alone shows in the spaces of the gaps alone. -/
theorem render_emptied_laidOut {f : List Piece → List Piece}
    (happly : ∀ gap piece rest, isFiller name piece = false →
      f (gap ++ piece :: rest) = f gap ++ piece :: f rest)
    (hfill : ∀ gap, Gap name gap → Gap name (f gap)) {gap : List Piece} (hgap : Gap name gap)
    (hblocks : LaidOut name blocks) :
    render ((f (laidOut gap blocks)).flatMap (putAt name "")) =
      List.replicate ((f gap).count space) ' ' ++
        lined (fun gap => (f gap).count space) blocks := by
  induction blocks generalizing gap with
  | nil =>
    rw [laidOut, List.flatMap_nil, List.append_nil, lined_nil, List.append_nil,
      render_emptied_gap (hfill gap hgap)]
  | cons block rest ih =>
    obtain ⟨⟨hblock, hbehind⟩, hrest⟩ := List.forall_mem_cons.1 hblocks
    rw [laidOut_cons, happly _ _ _ hblock, List.flatMap_append, List.flatMap_cons,
      putAt_of_not_filler hblock, render_append, render_append, ih hbehind hrest,
      render_emptied_gap (hfill gap hgap), render_singleton, lined_cons]

theorem closeGaps_append_cons {piece : Piece} (h : isFiller name piece = false)
    (gap rest : List Piece) : Pieces.closeGaps name (gap ++ piece :: rest) =
      Pieces.closeGaps name gap ++ piece :: Pieces.closeGaps name rest := by
  obtain ⟨hspace, hhole⟩ : piece ≠ space ∧ piece ≠ .hole name := by simpa [isFiller] using h
  unfold Pieces.closeGaps
  simp only
  rw [replaceAll_append_cons (List.cons_ne_nil _ _) (by simp [hspace, hhole]),
    replaceAll_append_cons (List.cons_ne_nil _ _) (by simp [hspace, hhole]),
    replaceAll_append_cons (List.cons_ne_nil _ _) (by simp [hspace, hhole])]

theorem gap_closeGaps {gap : List Piece} (h : Gap name gap) :
    Gap name (Pieces.closeGaps name gap) := by
  have hspaces : Gap name [space] := by simp [Gap, isFiller]
  have hreplace : ∀ {old new gap : List Piece}, old ≠ [] → Gap name new → Gap name gap →
      Gap name (replaceAll old new gap) := fun hold hnew hgap piece hpiece =>
    (mem_of_mem_replaceAll hold _ hpiece).elim (hnew piece) (hgap piece)
  have hnone : Gap name [] := by simp [Gap]
  exact hreplace (by simp) hnone (hreplace (by simp) hnone (hreplace (by simp) hspaces h))

/-- The words are kept when each gap between two other pieces keeps a space, if it had one. -/
theorem words_emptied_closeGaps_iff (name : String) (pieces : List Piece) :
    words (render ((Pieces.closeGaps name pieces).flatMap (putAt name ""))) =
        words (render (pieces.flatMap (putAt name ""))) ↔
      ∀ gap ∈ innerGaps name pieces, space ∈ gap → StaysOpen name gap := by
  obtain ⟨gap, blocks, rfl, hgap, hblocks⟩ := exists_laidOut name pieces
  have hpieces : ∀ block ∈ blocks, block.1 ≠ space := by
    intro block hblock hspace
    have hother := (hblocks block hblock).1
    rw [hspace, isFiller_space] at hother
    cases hother
  have hfewer : ∀ gap : List Piece, gap.count space = 0 →
      (Pieces.closeGaps name gap).count space = 0 := by
    intro gap hnone
    rw [List.count_eq_zero] at hnone ⊢
    exact fun hmem => hnone (space_mem_closeGaps_iff.1 hmem).space_mem
  have hfilled : render ((Pieces.closeGaps name (laidOut gap blocks)).flatMap (putAt name "")) =
      List.replicate ((Pieces.closeGaps name gap).count space) ' ' ++
        lined (fun gap => (Pieces.closeGaps name gap).count space) blocks :=
    render_emptied_laidOut (fun gap piece rest h => closeGaps_append_cons h gap rest)
      (fun gap => gap_closeGaps) hgap hblocks
  have hdeleted : render ((laidOut gap blocks).flatMap (putAt name "")) =
      List.replicate (gap.count space) ' ' ++ lined (fun gap => gap.count space) blocks :=
    render_emptied_laidOut (f := id) (fun _ _ _ _ => rfl) (fun gap h => h) hgap hblocks
  have hspaces : ∀ gap : List Piece, gap.count space ≠ 0 ↔ space ∈ gap := by
    intro gap
    rw [Ne, List.count_eq_zero, not_not]
  rw [hfilled, hdeleted, words_spaces_append, words_spaces_append,
    words_lined_eq_iff hfewer hpieces, forall_innerGaps_laidOut hgap hblocks]
  simp only [hspaces, space_mem_closeGaps_iff]

/-- Where no hole has the name nothing is deleted. -/
theorem flatMap_putAt_of_notMem (h : .hole name ∉ pieces) :
    pieces.flatMap (putAt name "") = pieces := by
  induction pieces with
  | nil => rfl
  | cons piece rest ih =>
    obtain ⟨hpiece, hrest⟩ := not_or.1 (mt List.mem_cons.2 h)
    rw [List.flatMap_cons, putAt, if_neg (Ne.symm hpiece), ih hrest, List.singleton_append]

/-! ## Words with the holes taken out -/

/-- The words of a template with the holes of the name taken out of each, without those of which
nothing is left. -/
def wordsWithout (name : String) (template : List Char) : List (List Char) :=
  ((words template).map (replaceAll (hole name.toList) [])).filter (!·.isEmpty)

/-- A hole without spaces lies within one word. -/
theorem wordsWithout_render (hname : BraceFree name.toList) (hspace : ' ' ∉ name.toList)
    (hpieces : Clean pieces) :
    wordsWithout name (render pieces) = words (render (pieces.flatMap (putAt name ""))) := by
  have hclean : Clean [.hole name] := clean_cons.2 ⟨hname, clean_nil⟩
  have hone : render [.hole name] = hole name.toList := render_singleton _
  have hdelete := replaceAll_render [.hole name] [] hclean (by rw [hone]; rfl) hpieces
  rw [hone, replaceAll_singleton] at hdelete
  rw [wordsWithout, ← words_replaceAll (hole_ne_nil _) (notMem_hole rfl hspace)]
  exact congrArg words hdelete

/-- A hole with a space lies within no word. -/
theorem wordsWithout_of_space (hspace : ' ' ∈ name.toList) (template : List Char) :
    wordsWithout name template = words template := by
  have hhole : ' ' ∈ hole name.toList := by simp [hole, hspace]
  have hself : ∀ word ∈ words template, replaceAll (hole name.toList) [] word = word := by
    intro word hword
    have hnone : ' ' ∉ word := notMem_of_mem_splitAt (List.mem_filter.1 hword).1
    exact replaceAll_eq_self fun hin => hnone (hin.subset hhole)
  rw [wordsWithout, List.map_congr_left hself, List.map_id', words, List.filter_filter]
  simp

/-! ## Holes lost -/

/-- The piece is a hole. -/
def isHole : Piece → Bool
  | .char _ => false
  | .hole _ => true

/-- There are as many holes as opening braces. -/
theorem count_open_render (hpieces : Clean pieces) :
    (render pieces).count '{' = pieces.countP isHole := by
  induction pieces with
  | nil => rfl
  | cons piece rest ih =>
    obtain ⟨hpiece, hrest⟩ := clean_cons.1 hpieces
    rw [render_cons, List.count_append, ih hrest, List.countP_cons]
    cases piece with
    | char c =>
      have hc : c ≠ '{' := by
        rintro rfl
        cases hpiece
      simp [Piece.text, isHole, hc]
    | hole name =>
      have hname : '{' ∉ name.toList := fun hmem => absurd (hpiece _ hmem) (by decide)
      simp [Piece.text, hole, isHole, List.count_eq_zero_of_not_mem hname]
      omega

theorem countP_isHole_emptied (name : String) (pieces : List Piece) :
    (pieces.flatMap (putAt name "")).countP isHole + pieces.count (.hole name) =
      pieces.countP isHole := by
  induction pieces with
  | nil => rfl
  | cons piece rest ih =>
    rw [List.flatMap_cons, List.countP_append, List.countP_cons, List.count_cons]
    cases piece with
    | char c =>
      rw [putAt_char]
      simp [isHole]
      omega
    | hole other =>
      by_cases hname : other = name
      · rw [hname, putAt_hole_self]
        simp [isHole, literal]
        omega
      · rw [putAt_hole_of_ne hname]
        simp [isHole, hname]
        omega

/-! ## Filling with an empty value -/

theorem fillOne_empty (name : String) (pieces : List Piece) :
    Pieces.fillOne pieces name "" = (Pieces.closeGaps name pieces).flatMap (putAt name "") :=
  replaceAll_singleton (Piece.hole name) _ _

/-- A hole that was filled does not show in the words. -/
theorem words_fillOne_ne (hpieces : Clean pieces) (hhole : .hole name ∈ pieces) :
    words (render (Pieces.fillOne pieces name "")) ≠ words (render pieces) := by
  intro heq
  obtain ⟨count, hdropped, -⟩ := dropped_fillOne pieces name ""
  have hclean : Clean (Pieces.fillOne pieces name "") :=
    Pieces.clean_fillOne (fun c hc => by cases hc) hpieces
  -- the words have all the braces of the text
  have hbraces : ∀ text : List Char, (words text).flatten.count '{' = text.count '{' := by
    intro text
    rw [flatten_words, List.count_filter (by decide)]
  have hcount := congrArg (fun words => (List.flatten words).count '{') heq
  simp only [hbraces, count_open_render hclean, count_open_render hpieces,
    hdropped.countP_eq (p := isHole) rfl] at hcount
  have htotal := countP_isHole_emptied name pieces
  have hpos : 0 < pieces.count (.hole name) := List.count_pos_iff.2 hhole
  omega

/-- An empty value leaves the words of a template without the holes of its name exactly when each
gap between two other pieces keeps a space if it has one: there is a row in it, of spaces with one
hole between neighbours, that no further hole stands beside.  A hole with a space in its name lies
in no word, so there may be none of that name. -/
theorem empty_value_keeps_words_iff (hname : BraceFree name.toList) (hpieces : Clean pieces) :
    words (fill (String.ofList (render pieces)) [(name, "")]).toList =
        wordsWithout name (render pieces) ↔
      (∀ gap ∈ innerGaps name pieces, space ∈ gap → StaysOpen name gap) ∧
        (' ' ∈ name.toList → .hole name ∉ pieces) := by
  have hfill : (fill (String.ofList (render pieces)) [(name, "")]).toList =
      render (Pieces.fillOne pieces name "") := by
    rw [toList_fill, String.toList_ofList]
    exact Pieces.fillOne_render hname hpieces
  rw [hfill, ← words_emptied_closeGaps_iff, ← fillOne_empty]
  -- whether the holes lie within words is a matter of their name
  by_cases hspace : ' ' ∈ name.toList
  · rw [wordsWithout_of_space hspace]
    by_cases hhole : .hole name ∈ pieces
    · refine iff_of_false (words_fillOne_ne hpieces hhole) fun h => h.2 hspace hhole
    · rw [flatMap_putAt_of_notMem hhole]
      simp [hhole]
  · rw [wordsWithout_render hname hspace hpieces]
    simp [hspace]

/-- A hole that stands by itself between words leaves them as they are. -/
theorem empty_value_keeps_words_iff_checksum :
    words (fill ({} : Templates).checksumHex [("options", "")]).toList =
      wordsWithout "options" ({} : Templates).checksumHex.toList := by
  have hname : BraceFree "options".toList := by simp [BraceFree, isBrace]
  have hpieces : Clean [.hole "algorithm", .char 's', .char 'u', .char 'm', space,
      .hole "options", space, .hole "path"] := by
    simp [Piece.Clean, BraceFree, isBrace]
  have hgaps : innerGaps "options" [.hole "algorithm", .char 's', .char 'u', .char 'm', space,
      .hole "options", space, .hole "path"] = [[], [], [], [space, .hole "options", space]] := by
    decide
  refine (empty_value_keeps_words_iff hname hpieces).2 ⟨?_, fun hspace => ?_⟩
  · rw [hgaps]
    rintro gap hgap hspace
    obtain rfl : gap = [space, .hole "options", space] := by
      simp only [List.mem_cons, List.not_mem_nil, or_false] at hgap
      rcases hgap with rfl | rfl | rfl | rfl
      · cases hspace
      · cases hspace
      · cases hspace
      · rfl
    exact ⟨[], _, [], rfl, .more .one, by simp, by simp⟩
  · simp at hspace

/-- Behind an empty value that ends a word the next word is joined to it. -/
theorem empty_block_size_joins_words :
    words (fill "dd bs={block_size} count=3" [("block_size", "")]).toList =
        ["dd".toList, "bs=count=3".toList] ∧
      wordsWithout "block_size" "dd bs={block_size} count=3".toList =
        ["dd".toList, "bs=".toList, "count=3".toList] := by
  constructor
  · decide +kernel
  · decide +kernel

end TestRig.Template
