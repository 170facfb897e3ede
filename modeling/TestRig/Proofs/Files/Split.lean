/-
  TestRig.Proofs.Files.Split

  Splitting a file in a file system without links.  The parts are written one after
  the other at places of their own, none of them the place of the source, so the
  source keeps its content during the whole run and each part keeps its own.  What
  the parts hold is the content of the source cut into the requested lengths
  (`writeParts_eq`); for equal parts nothing is left over.
-/
import Mathlib.Algebra.Ring.Nat
import TestRig.Files.Split
import TestRig.Proofs.FileSystem.Following
import TestRig.Proofs.FileSystem.Writing
import TestRig.Proofs.Random.Range

namespace TestRig.Files

open FileSystem
open Text (encode)

/-! ## Cutting a content -/

/-- The content cut into pieces of the requested lengths, shorter where it ends. -/
def chunks : List Nat → Bytes → List Bytes
  | [], _ => []
  | want :: rest, content => content.take want :: chunks rest (content.drop want)

@[simp] theorem length_chunks (wants : List Nat) (content : Bytes) :
    (chunks wants content).length = wants.length := by
  induction wants generalizing content with
  | nil => rfl
  | cons want rest ih => rw [chunks, List.length_cons, ih, List.length_cons]

/-- Put together the pieces are the beginning of the content. -/
theorem flatten_chunks (wants : List Nat) (content : Bytes) :
    (chunks wants content).flatten = content.take wants.sum := by
  induction wants generalizing content with
  | nil => rw [List.sum_nil, List.take_zero]; rfl
  | cons want rest ih => rw [chunks, List.flatten_cons, ih, List.sum_cons, List.take_add]

/-- While the content lasts, every piece has the length that was asked for. -/
theorem map_length_chunks {wants : List Nat} {content : Bytes} (h : wants.sum ≤ content.length) :
    (chunks wants content).map List.length = wants := by
  induction wants generalizing content with
  | nil => rfl
  | cons want rest ih =>
    rw [List.sum_cons] at h
    have hrest : rest.sum ≤ (content.drop want).length := by rw [List.length_drop]; omega
    rw [chunks, List.map_cons, ih hrest, List.length_take, Nat.min_eq_left (by omega)]

theorem length_le_of_mem_chunks {wants : List Nat} {content part : Bytes}
    (h : part ∈ chunks wants content) : part.length ≤ content.length := by
  induction wants generalizing content with
  | nil => cases h
  | cons want rest ih =>
    rw [chunks, List.mem_cons] at h
    rcases h with rfl | h
    · exact List.length_take_le' want content
    · exact Nat.le_trans (ih h) (by rw [List.length_drop]; omega)

/-- Reading goes on behind what was read. -/
theorem drop_length_take (content : Bytes) (offset want : Nat) :
    content.drop (offset + ((content.drop offset).take want).length) =
      (content.drop offset).drop want := by
  rw [← List.drop_drop, List.length_take]
  rcases Nat.le_total want (content.drop offset).length with hle | hle
  · rw [Nat.min_eq_left hle]
  · rw [Nat.min_eq_right hle, List.drop_length, List.drop_eq_nil_of_le hle]

/-! ## Names of parts -/

theorem isName_part {name : String} (h : Path.IsName name) (i : Nat) :
    Path.IsName (name ++ "_out" ++ toString i) := by
  have hlong : 5 ≤ (name ++ "_out" ++ toString i).toList.length := by
    have hone : name.toList.length ≠ 0 := fun hnil =>
      h.ne_empty (String.toList_injective (List.length_eq_zero_iff.1 hnil))
    simp only [String.toList_append, List.length_append]
    change 5 ≤ name.toList.length + 4 + _
    omega
  refine ⟨?_, ?_, ?_, ?_⟩
  · have hdigits : '/' ∉ (toString i).toList := by
      intro hmem
      have hdigit := Nat.isDigit_of_mem_toDigits (b := 10) (n := i) (by decide) (by decide)
        (by simpa using hmem)
      exact absurd hdigit (by decide)
    simp only [String.toList_append, List.mem_append, not_or]
    exact ⟨⟨h.slashless, by decide⟩, hdigits⟩
  all_goals
    intro heq
    rw [heq] at hlong
    exact absurd hlong (by decide)

theorem part_injective {name : String} {i j : Nat}
    (h : name ++ "_out" ++ toString i = name ++ "_out" ++ toString j) : i = j := by
  have hlist := congrArg String.toList h
  simp only [String.toList_append] at hlist
  -- a number is read back from its digits
  have hdigits : Nat.toDigits 10 i = Nat.toDigits 10 j := by
    simpa using List.append_cancel_left hlist
  rw [← Nat.ofDigitChars_ten_toDigits (n := i), hdigits, Nat.ofDigitChars_ten_toDigits]

theorem part_ne (name : String) (i : Nat) : name ++ "_out" ++ toString i ≠ name := by
  intro h
  have hlen := congrArg (fun text => text.toList.length) h
  simp only [String.toList_append, List.length_append] at hlen
  change name.toList.length + 4 + _ = _ at hlen
  omega

/-! ## Places of parts -/

variable {fs fs' : FileSystem} {source : Location} {content : Bytes} {dir name : String}

theorem place_partPath_injective (hname : Path.IsName name) {i j : Nat}
    (h : fs.place (encode (partPath dir name i)) = fs.place (encode (partPath dir name j))) :
    i = j :=
  part_injective (name_eq_of_place_join_eq (isName_part hname i) (isName_part hname j) h)

/-- No part stands in the place of the file that is split. -/
theorem place_ne_place_partPath {path : String} (hname : Path.fileName? path = some name)
    (dir : String) (i : Nat) :
    fs.place (encode path) ≠ fs.place (encode (partPath dir name i)) := by
  intro heq
  have hpart := isName_part (Path.isName_of_fileName? hname) i
  exact part_ne name i (name_eq_of_place_eq_join hname hpart heq).symm

/-! ## Writing the parts -/

/-- The part with a number and a content. -/
def partOf (dir name : String) (i : Nat) (part : Bytes) : SplitPart :=
  ⟨partPath dir name i, UInt64.ofNat part.length⟩

/-- The parts of the contents, numbered from `i` on. -/
def partsOf (dir name : String) : Nat → List Bytes → List SplitPart
  | _, [] => []
  | i, part :: rest => partOf dir name i part :: partsOf dir name (i + 1) rest

/-- The location is the place of one of the parts from number `i` up to number `i + count`. -/
def IsPartPlace (fs : FileSystem) (dir name : String) (i count : Nat) (loc : Location) : Prop :=
  ∃ j, i ≤ j ∧ j < i + count ∧ loc = fs.place (encode (partPath dir name j))

@[simp] theorem onPath_ok {α : Type} (path : String) (a : α) :
    onPath path (.ok a : Except IoError α) = .ok a := rfl

@[simp] theorem onPath_error {α : Type} (path : String) (refusal : IoError) :
    onPath path (.error refusal : Except IoError α) = .error (.ofIo path refusal) := rfl

/-- Whatever comes of it, writing a part changes the file of the part alone. -/
theorem filesChanged_writePart (hlinks : fs.LinkFree) (source : Location) (output : String)
    (offset want : Nat) :
    FilesChanged (· = fs.place (encode output)) fs (writePart source output offset want fs).2 := by
  rw [writePart]
  cases hopen : fs.openForWriting (encode output) true 0o666 with
  | error e =>
    simp only [onPath_error]
    exact .refl _ _
  | ok opened =>
    obtain ⟨dest, fs₁⟩ := opened
    obtain ⟨-, rfl, -⟩ := openForWriting_eq_ok hlinks hopen
    have hopened := filesChanged_openForWriting hopen
    simp only [onPath_ok]
    cases hread : fs₁.readAt source offset want with
    | error e =>
      simp only [onPath_error]
      exact hopened
    | ok part =>
      simp only [onPath_ok]
      exact hopened.trans (filesChanged_setContent fs₁ _ part)

/-- A part is written exactly when its file can be opened; it then holds the next bytes of the
source. -/
theorem writePart_eq (hlinks : fs.LinkFree) (hsource : fs.fileAt source = some content)
    {output : String} (hother : source ≠ fs.place (encode output))
    (hdevice : fs.DeviceFree (encode output)) (offset want : Nat) :
    (fs.Writable (encode output) ∧ ∃ fs',
      writePart source output offset want fs = (.ok ((content.drop offset).take want), fs') ∧
        fs'.content? (encode output) = some ((content.drop offset).take want)) ∨
    (¬ fs.Writable (encode output) ∧
      ∃ e fs', writePart source output offset want fs = (.error e, fs')) := by
  by_cases hwritable : fs.Writable (encode output)
  · refine .inl ⟨hwritable, ?_⟩
    obtain ⟨⟨dest, fs₁⟩, hopen⟩ := (exists_openForWriting_iff hlinks 0o666).2 hwritable
    obtain ⟨-, rfl, hdir⟩ := openForWriting_eq_ok hlinks hopen
    have hopened := filesChanged_openForWriting hopen
    have hsource₁ : fs₁.fileAt source = some content := by
      rw [fileAt_congr (hopened.lookup_eq source hother), hsource]
    have hwritten := hopened.trans
      (filesChanged_setContent fs₁ (fs.place (encode output)) ((content.drop offset).take want))
    refine ⟨fs₁.setContent (fs.place (encode output)) ((content.drop offset).take want), ?_, ?_⟩
    · rw [writePart, hopen]
      simp only [onPath_ok, readAt_of_fileAt hsource₁]
    · rw [content?, hwritten.place_eq]
      have hfree := free_of_not_hasDirectory hdir (hlinks _) hdevice
      exact fileAt_setContent (fileAt_openForWriting hopen hfree) _
  · refine .inr ⟨hwritable, ?_⟩
    cases hopen : fs.openForWriting (encode output) true 0o666 with
    | error e =>
      refine ⟨.ofIo output e, fs, ?_⟩
      rw [writePart, hopen]
      simp only [onPath_error]
    | ok opened =>
      exact absurd ((exists_openForWriting_iff hlinks 0o666).1 ⟨opened, hopen⟩) hwritable

/-- Whatever comes of it, writing parts changes files at the places of these parts alone. -/
theorem filesChanged_writeParts (hlinks : fs.LinkFree) (source : Location) (dir name : String)
    (i offset : Nat) (wants : List Nat) :
    FilesChanged (IsPartPlace fs dir name i wants.length) fs
      (writeParts source dir name i offset wants fs).2 := by
  induction wants generalizing fs i offset with
  | nil =>
    rw [writeParts]
    exact .refl _ _
  | cons want rest ih =>
    have hpart := filesChanged_writePart hlinks source (partPath dir name i) offset want
    rw [writeParts]
    rcases hrun : writePart source (partPath dir name i) offset want fs with ⟨result, fs₁⟩
    rw [hrun] at hpart
    have hfirst : FilesChanged (IsPartPlace fs dir name i (want :: rest).length) fs fs₁ :=
      hpart.mono fun loc heq => ⟨i, Nat.le_refl i, by simp, heq⟩
    cases result with
    | error e => exact hfirst
    | ok part =>
      have hrest := ih (hpart.linkFree hlinks) (i + 1) (offset + part.length)
      rcases hmore : writeParts source dir name (i + 1) (offset + part.length) rest fs₁ with
        ⟨result, fs₂⟩
      rw [hmore] at hrest
      have hlater : FilesChanged (IsPartPlace fs dir name i (want :: rest).length) fs₁ fs₂ := by
        refine hrest.mono ?_
        rintro loc ⟨j, hlow, hhigh, heq⟩
        refine ⟨j, by omega, by rw [List.length_cons]; omega, ?_⟩
        rw [heq, hpart.place_eq]
      simp only
      rw [hmore]
      cases result with
      | error e => exact hfirst.trans hlater
      | ok parts => exact hfirst.trans hlater

/-- Parts stand at places of their own, so a part keeps its content while later ones are written. -/
theorem content?_writeParts (hlinks : fs.LinkFree) (hname : Path.IsName name) (source : Location)
    {i j : Nat} (h : j < i) (offset : Nat) (wants : List Nat) :
    (writeParts source dir name i offset wants fs).2.content? (encode (partPath dir name j)) =
      fs.content? (encode (partPath dir name j)) := by
  have hchanged := filesChanged_writeParts hlinks source dir name i offset wants
  rw [content?, content?, hchanged.place_eq]
  apply fileAt_congr
  apply hchanged.lookup_eq
  rintro ⟨k, hlow, -, heq⟩
  have hsame : j = k := place_partPath_injective hname heq
  omega

/-- The files of the parts from number `i` up to number `i + count` can all be opened. -/
def PartsWritable (fs : FileSystem) (dir name : String) (i count : Nat) : Prop :=
  ∀ j, i ≤ j → j < i + count → fs.Writable (encode (partPath dir name j))

theorem partsWritable_succ {i count : Nat} :
    PartsWritable fs dir name i (count + 1) ↔
      fs.Writable (encode (partPath dir name i)) ∧ PartsWritable fs dir name (i + 1) count := by
  constructor
  · intro h
    exact ⟨h i (Nat.le_refl i) (by omega), fun j hlow hhigh => h j (by omega) (by omega)⟩
  · rintro ⟨hfirst, hlater⟩ j hlow hhigh
    rcases Nat.eq_or_lt_of_le hlow with rfl | hlt
    · exact hfirst
    · exact hlater j hlt (by omega)

theorem partsWritable_congr {touched : Location → Prop} (h : FilesChanged touched fs fs')
    {i count : Nat} :
    PartsWritable fs' dir name i count ↔ PartsWritable fs dir name i count :=
  forall_congr' fun _ => forall_congr' fun _ => forall_congr' fun _ => h.writable_iff

/-- The parts are written exactly when the files of all of them can be opened; each then holds its
piece of what the source holds behind the offset. -/
theorem writeParts_eq (hlinks : fs.LinkFree) (hname : Path.IsName name)
    (hsource : fs.fileAt source = some content)
    (hother : ∀ j, source ≠ fs.place (encode (partPath dir name j))) (i offset : Nat)
    (wants : List Nat)
    (hdevice : ∀ j, i ≤ j → j < i + wants.length → fs.DeviceFree (encode (partPath dir name j))) :
    (PartsWritable fs dir name i wants.length ∧ ∃ fs',
      writeParts source dir name i offset wants fs =
        (.ok (partsOf dir name i (chunks wants (content.drop offset))), fs') ∧
      (partsOf dir name i (chunks wants (content.drop offset))).map
          (fun part => fs'.content? (encode part.output)) =
        (chunks wants (content.drop offset)).map some) ∨
    (¬ PartsWritable fs dir name i wants.length ∧
      ∃ e fs', writeParts source dir name i offset wants fs = (.error e, fs')) := by
  -- the source stays, so each part reads on where the one before it ended
  induction wants generalizing fs i offset with
  | nil =>
    refine .inl ⟨fun j hlow hhigh => ?_, fs, ?_, rfl⟩
    · exact absurd hhigh (Nat.not_lt_of_le hlow)
    · rw [writeParts]
      rfl
  | cons want rest ih =>
    rw [List.length_cons, partsWritable_succ]
    have hchanged := filesChanged_writePart hlinks source (partPath dir name i) offset want
    rcases writePart_eq hlinks hsource (hother i)
      (hdevice i (Nat.le_refl i) (by simp)) offset want with
      ⟨hfirst, fs₁, hrun, hcontent⟩ | ⟨hfirst, e, fs₁, hrun⟩
    · rw [hrun] at hchanged
      have hsource₁ : fs₁.fileAt source = some content := by
        rw [fileAt_congr (hchanged.lookup_eq source (hother i)), hsource]
      have hmore := @ih fs₁ (hchanged.linkFree hlinks) hsource₁
        (fun j => by rw [hchanged.place_eq]; exact hother j) (i + 1)
        (offset + ((content.drop offset).take want).length)
        (fun j hlow hhigh => hchanged.deviceFree_iff.2
          (hdevice j (by omega) (by rw [List.length_cons]; omega)))
      rw [drop_length_take, partsWritable_congr hchanged] at hmore
      rcases hmore with ⟨hlater, fs₂, hmore, hcontents⟩ | ⟨hlater, e, fs₂, hmore⟩
      · refine .inl ⟨⟨hfirst, hlater⟩, fs₂, ?_, ?_⟩
        · rw [writeParts, hrun]
          simp only [hmore]
          rfl
        · have hkept : fs₂.content? (encode (partPath dir name i)) =
              fs₁.content? (encode (partPath dir name i)) := by
            rw [← content?_writeParts (hchanged.linkFree hlinks) hname source (Nat.lt_succ_self i)
              (offset + ((content.drop offset).take want).length) rest, hmore]
          rw [chunks, partsOf, List.map_cons, List.map_cons, hcontents]
          rw [show (partOf dir name i ((content.drop offset).take want)).output =
            partPath dir name i from rfl, hkept, hcontent]
      · refine .inr ⟨fun h => hlater h.2, e, fs₂, ?_⟩
        rw [writeParts, hrun]
        simp only [hmore]
    · refine .inr ⟨fun h => hfirst h.1, e, fs₁, ?_⟩
      rw [writeParts, hrun]

theorem map_output_partsOf (dir name : String) (i : Nat) (contents : List Bytes) :
    (partsOf dir name i contents).map SplitPart.output =
      (List.range' i contents.length).map (partPath dir name) := by
  induction contents generalizing i with
  | nil => rfl
  | cons part rest ih =>
    rw [partsOf, List.map_cons, ih, List.length_cons, List.range'_succ, List.map_cons]
    rfl

/-- The parts stand in the order of their numbers, and so does what their paths are mapped to. -/
theorem map_comp_output_partsOf {α : Type} (f : String → α) (dir name : String)
    (contents : List Bytes) :
    (partsOf dir name 0 contents).map (fun part => f part.output) =
      (List.range contents.length).map fun i => f (partPath dir name i) := by
  have houtputs := congrArg (List.map f) (map_output_partsOf dir name 0 contents)
  rwa [List.map_map, List.map_map, ← List.range_eq_range'] at houtputs

theorem length_partsOf (dir name : String) (i : Nat) (contents : List Bytes) :
    (partsOf dir name i contents).length = contents.length := by
  simpa using congrArg List.length (map_output_partsOf dir name i contents)

/-- The size of a part is the length of its content, as a word. -/
theorem map_size_eq (dir name : String) (i : Nat) (contents : List Bytes) :
    (partsOf dir name i contents).map SplitPart.size =
      (contents.map List.length).map UInt64.ofNat := by
  induction contents generalizing i with
  | nil => rfl
  | cons part rest ih =>
    rw [partsOf, List.map_cons, ih, List.map_cons, List.map_cons]
    rfl

theorem map_size_partsOf (dir name : String) (i : Nat) {contents : List Bytes}
    (h : ∀ part ∈ contents, part.length < 2 ^ 64) :
    (partsOf dir name i contents).map (fun part => part.size.toNat) =
      contents.map List.length := by
  have hsizes := congrArg (List.map UInt64.toNat) (map_size_eq dir name i contents)
  rw [List.map_map, List.map_map, List.map_map] at hsizes
  refine hsizes.trans (List.map_congr_left fun part hpart => ?_)
  exact UInt64.toNat_ofNat_of_lt' (h part hpart)

/-! ## Requests -/

theorem length_requests (sizing : PartSizing) (total : Nat) {parts : Nat} (hparts : 1 ≤ parts) :
    (sizing.requests total parts).length = parts := by
  cases sizing with
  | equal =>
    rw [PartSizing.requests, List.length_append, List.length_replicate, List.length_singleton]
    omega
  | random => rw [PartSizing.requests, List.length_map, Random.length_drawMany]

/-- Equal parts together ask for the whole file. -/
theorem sum_requests_equal (total : Nat) {parts : Nat} (hparts : 1 ≤ parts) :
    (PartSizing.equal.requests total parts).sum = total := by
  have hdiv := Nat.div_add_mod total parts
  have hsplit : parts * (total / parts) = (parts - 1) * (total / parts) + total / parts := by
    rw [Nat.sub_one_mul, Nat.sub_add_cancel (Nat.le_mul_of_pos_left _ hparts)]
  rw [PartSizing.requests, List.sum_append, List.sum_replicate_nat, List.sum_singleton]
  omega

theorem last_request_le (total : Nat) {parts : Nat} (hparts : 1 ≤ parts) :
    total / parts + total % parts ≤ total := by
  have hdiv := Nat.div_add_mod total parts
  have hle : total / parts ≤ parts * (total / parts) := Nat.le_mul_of_pos_left _ hparts
  omega

/-- The size of the last part is the same when it is computed in 64-bit words. -/
theorem toNat_last_request {total parts : Nat} (htotal : total < 2 ^ 64) (hparts : 1 ≤ parts)
    (hword : parts < 2 ^ 64) :
    (UInt64.ofNat total / UInt64.ofNat parts + UInt64.ofNat total % UInt64.ofNat parts).toNat =
      total / parts + total % parts := by
  have hle := last_request_le total hparts
  rw [UInt64.toNat_add, UInt64.toNat_div, UInt64.toNat_mod, UInt64.toNat_ofNat',
    UInt64.toNat_ofNat', Nat.mod_eq_of_lt htotal, Nat.mod_eq_of_lt hword]
  exact Nat.mod_eq_of_lt (by omega)

/-! ## Splitting -/

/-- The path of part `i` of the file at a path. -/
def outputPath? (path : String) (i : Nat) : Option String :=
  (Path.fileName? path).map fun name => partPath ((Path.parent? path).getD ".") name i

/-- What is there is split by writing the requested parts. -/
theorem split_eq {path : String} {node : Node}
    (hsource : fs.find (encode path) .follow = .ok (source, node))
    (hname : Path.fileName? path = some name) {parts : Nat} (hparts : parts ≠ 0)
    (sizing : PartSizing) :
    split fs path parts sizing =
      writeParts source ((Path.parent? path).getD ".") name 0 0
        (sizing.requests node.size parts) fs := by
  obtain ⟨hlocate, -⟩ := find_eq_ok_iff_locate.1 hsource
  have hsize : fs.size (encode path) = .ok node.size := by
    rw [FileSystem.size, hsource]
    rfl
  rw [split, if_neg hparts, hname]
  simp only [hlocate, hsize, onPath_ok]

theorem outputPath?_eq {path : String} (hname : Path.fileName? path = some name) (i : Nat) :
    outputPath? path i = some (partPath ((Path.parent? path).getD ".") name i) := by
  rw [outputPath?, hname]
  rfl

/-- The files of the parts can be opened exactly when they are writable. -/
theorem partsWritable_iff_open (hlinks : fs.LinkFree) {path : String}
    (hname : Path.fileName? path = some name) (parts : Nat) :
    PartsWritable fs ((Path.parent? path).getD ".") name 0 parts ↔
      ∀ i < parts, ∃ output opened, outputPath? path i = some output ∧
        fs.openForWriting (encode output) true 0o666 = .ok opened := by
  constructor
  · intro h i hi
    obtain ⟨opened, hopen⟩ :=
      (exists_openForWriting_iff hlinks 0o666).2 (h i (Nat.zero_le i) (by omega))
    exact ⟨_, opened, outputPath?_eq hname i, hopen⟩
  · intro h i _ hi
    obtain ⟨output, opened, houtput, hopen⟩ := h i (by omega)
    obtain rfl := Option.some.inj ((outputPath?_eq hname i).symm.trans houtput)
    exact (exists_openForWriting_iff hlinks 0o666).1 ⟨opened, hopen⟩

/-- What stands at the places of paths that are reached is read from them. -/
theorem map_read_of_map_content? (hlinks : fs.LinkFree) {written : List SplitPart}
    {contents : List Bytes} (hreach : ∀ part ∈ written, fs.Reaches (encode part.output))
    (h : written.map (fun part => fs.content? (encode part.output)) = contents.map some) :
    written.map (fun part => fs.read (encode part.output)) = contents.map .ok := by
  induction written generalizing contents with
  | nil =>
    obtain rfl : contents = [] := by simpa using h.symm
    rfl
  | cons part rest ih =>
    cases contents with
    | nil => simp at h
    | cons content more =>
      obtain ⟨hpart, hrest⟩ := List.cons.inj h
      rw [List.map_cons, List.map_cons,
        ih (fun other hother => hreach other (List.mem_cons_of_mem _ hother)) hrest,
        read_of_content? hlinks (hreach part List.mem_cons_self) hpart]

/-- The parts beside a file are written exactly when all of them can be opened.  Each part then
holds its piece of the file, and nothing else has changed. -/
theorem writeParts_eq_or (hlinks : fs.LinkFree) {path : String} {mode : Nat}
    (hsource : fs.find (encode path) .follow = .ok (source, .file mode content))
    (hname : Path.fileName? path = some name) {requests : List Nat}
    (hdevice : ∀ i < requests.length, ∀ output, outputPath? path i = some output →
      fs.DeviceFree (encode output)) :
    let dir := (Path.parent? path).getD "."
    let written := partsOf dir name 0 (chunks requests content)
    let opens := ∀ i < requests.length, ∃ output opened, outputPath? path i = some output ∧
      fs.openForWriting (encode output) true 0o666 = .ok opened
    (opens ∧ ∃ fs', writeParts source dir name 0 0 requests fs = (.ok written, fs') ∧
      FilesChanged (IsPartPlace fs dir name 0 requests.length) fs fs' ∧
      written.map (fun part => fs'.read (encode part.output)) =
        (chunks requests content).map .ok) ∨
    (¬ opens ∧ ∃ e fs', writeParts source dir name 0 0 requests fs = (.error e, fs')) := by
  intro dir written opens
  obtain ⟨-, rfl, hnode⟩ := (find_eq_ok_iff hlinks).1 hsource
  have hrun := writeParts_eq hlinks (Path.isName_of_fileName? hname)
    (fileAt_eq_some_iff.2 ⟨mode, hnode⟩) (place_ne_place_partPath hname dir) 0 0 requests
    (fun j _ hj => hdevice j (by omega) _ (outputPath?_eq hname j))
  rw [List.drop_zero, partsWritable_iff_open hlinks hname] at hrun
  refine hrun.imp_left ?_
  rintro ⟨hopen, fs', heq, hcontents⟩
  have hchanged := filesChanged_writeParts hlinks (fs.place (encode path)) dir name 0 0 requests
  rw [heq] at hchanged
  refine ⟨hopen, fs', heq, hchanged,
    map_read_of_map_content? (hchanged.linkFree hlinks) ?_ hcontents⟩
  intro part hpart
  have hmem := List.mem_map_of_mem (f := SplitPart.output) hpart
  rw [map_output_partsOf, length_chunks] at hmem
  obtain ⟨j, hj, hpath⟩ := List.mem_map.1 hmem
  obtain ⟨hlow, hhigh⟩ := List.mem_range'_1.1 hj
  rw [← hpath, hchanged.reaches_iff]
  exact ((partsWritable_iff_open hlinks hname _).2 hopen j hlow hhigh).1

/-- A file is split exactly when all parts can be opened.  Each part then holds its piece of the
file, and nothing else has changed. -/
theorem split_eq_or (hlinks : fs.LinkFree) {path : String} {mode : Nat}
    (hsource : fs.find (encode path) .follow = .ok (source, .file mode content))
    (hname : Path.fileName? path = some name) {parts : Nat} (hparts : 1 ≤ parts)
    (hdevice : ∀ i < parts, ∀ output, outputPath? path i = some output →
      fs.DeviceFree (encode output)) (sizing : PartSizing) :
    let requests := sizing.requests content.length parts
    let written := partsOf ((Path.parent? path).getD ".") name 0 (chunks requests content)
    let opens := ∀ i < parts, ∃ output opened, outputPath? path i = some output ∧
      fs.openForWriting (encode output) true 0o666 = .ok opened
    (opens ∧ ∃ fs', split fs path parts sizing = (.ok written, fs') ∧
      FilesChanged (IsPartPlace fs ((Path.parent? path).getD ".") name 0 parts) fs fs' ∧
      written.map (fun part => fs'.read (encode part.output)) =
        (chunks requests content).map .ok) ∨
    (¬ opens ∧ ∃ e fs', split fs path parts sizing = (.error e, fs')) := by
  intro requests written opens
  have hcount : requests.length = parts := length_requests sizing _ hparts
  have hsplit : split fs path parts sizing =
      writeParts source ((Path.parent? path).getD ".") name 0 0 requests fs :=
    split_eq hsource hname (by omega) sizing
  have hrun := writeParts_eq_or hlinks hsource hname (by rwa [hcount])
  simp only [hcount] at hrun
  rw [hsplit]
  exact hrun

/-- Splitting into equal parts loses nothing.  It succeeds exactly when every part can be opened;
the parts then stand in order at their paths, put together they are the source, and each size is
the length of its part: `total / parts`, and for the last one the remainder more, without overflow
of the 64-bit words in which the sizes are counted. -/
theorem split_equal_lossless (hlinks : fs.LinkFree) {path : String} {mode : Nat}
    (hsource : fs.find (encode path) .follow = .ok (source, .file mode content))
    (htotal : content.length < 2 ^ 64) {parts : Nat} (hparts : 1 ≤ parts)
    (hdevice : ∀ i < parts, ∀ output, outputPath? path i = some output →
      fs.DeviceFree (encode output)) :
    ((∃ written, (split fs path parts .equal).1 = .ok written) ↔
      ∀ i < parts, ∃ output opened, outputPath? path i = some output ∧
        fs.openForWriting (encode output) true 0o666 = .ok opened) ∧
    ∀ written fs', split fs path parts .equal = (.ok written, fs') →
      written.length = parts ∧
      written.map (fun part => some part.output) = (List.range parts).map (outputPath? path) ∧
      (∃ contents : List Bytes,
        written.map (fun part => fs'.read (encode part.output)) = contents.map .ok ∧
        contents.flatten = content ∧
        written.map (fun part => part.size.toNat) = contents.map List.length) ∧
      written.map (fun part => part.size.toNat) =
        List.replicate (parts - 1) (content.length / parts) ++
          [content.length / parts + content.length % parts] ∧
      (written.map fun part => part.size.toNat).sum = content.length ∧
      content.length / parts + content.length % parts < 2 ^ 64 ∧
      (parts < 2 ^ 64 →
        (UInt64.ofNat content.length / UInt64.ofNat parts +
            UInt64.ofNat content.length % UInt64.ofNat parts).toNat =
          content.length / parts + content.length % parts) := by
  cases hname : Path.fileName? path with
  | none =>
    have hsplit : split fs path parts .equal =
        (.error (.invalidArgument (path ++ " has no file name")), fs) := by
      rw [split, if_neg (by omega), hname]
    refine ⟨⟨?_, ?_⟩, ?_⟩
    · rintro ⟨written, h⟩
      simp [hsplit] at h
    · intro h
      obtain ⟨output, -, houtput, -⟩ := h 0 (by omega)
      simp [outputPath?, hname] at houtput
    · intro written fs' h
      simp [hsplit] at h
  | some name =>
    rcases split_eq_or hlinks hsource hname hparts hdevice .equal with
      ⟨hopen, fs₁, hsplit, -, hread⟩ | ⟨hopen, e, fs₁, hsplit⟩
    · refine ⟨⟨fun _ => hopen, fun _ => ⟨_, by rw [hsplit]⟩⟩, ?_⟩
      intro written fs' h
      obtain ⟨rfl, rfl⟩ : _ = written ∧ fs₁ = fs' := by simpa [hsplit] using h
      have hsum := sum_requests_equal content.length hparts
      have hlengths := map_length_chunks (Nat.le_of_eq hsum)
      have hshort : ∀ part ∈ chunks (PartSizing.equal.requests content.length parts) content,
          part.length < 2 ^ 64 := fun part hpart =>
        Nat.lt_of_le_of_lt (length_le_of_mem_chunks hpart) htotal
      have hsizes := map_size_partsOf ((Path.parent? path).getD ".") name 0 hshort
      have houtputs := map_output_partsOf ((Path.parent? path).getD ".") name 0
        (chunks (PartSizing.equal.requests content.length parts) content)
      rw [length_chunks, length_requests .equal _ hparts] at houtputs
      refine ⟨?_, ?_, ⟨_, hread, ?_, hsizes⟩, ?_, ?_, ?_, toNat_last_request htotal hparts⟩
      · simpa using congrArg List.length houtputs
      · have := congrArg (List.map some) houtputs
        rw [List.map_map, List.map_map] at this
        rw [List.range_eq_range']
        refine this.trans (List.map_congr_left fun i _ => ?_)
        exact (outputPath?_eq hname i).symm
      · rw [flatten_chunks, hsum, List.take_length]
      · rw [hsizes, hlengths]
        rfl
      · rw [hsizes, hlengths, hsum]
      · exact Nat.lt_of_le_of_lt (last_request_le _ hparts) htotal
    · refine ⟨⟨?_, fun h => absurd h hopen⟩, ?_⟩
      · rintro ⟨written, h⟩
        simp [hsplit] at h
      · intro written fs' h
        simp [hsplit] at h

/-- A file beside which a longer part of an earlier split still stands. -/
def diskWithStalePart : FileSystem where
  nodes := [([encode "f"], .file 0o644 [1, 2, 3]), ([encode "f_out0"], .file 0o600 [9, 9, 9, 9])]

theorem find_diskWithStalePart : diskWithStalePart.find (encode "f") .follow =
    .ok ([encode "f"], .file 0o644 [1, 2, 3]) := by
  simp only [find, locate, walk_eq_walkLinks]
  decide +kernel

theorem split_equal_lossless_stale_part :
    ∃ written fs', split diskWithStalePart "f" 2 .equal = (.ok written, fs') ∧
      written.map (fun part => part.size.toNat) = [1, 2] ∧
      ∃ contents : List Bytes,
        written.map (fun part => fs'.read (encode part.output)) = contents.map .ok ∧
        contents.flatten = [1, 2, 3] := by
  have hplain : diskWithStalePart.Plain :=
    plain_of_nodes (by simp [diskWithStalePart, Node.isFile])
  obtain ⟨hopen, hwritten⟩ := split_equal_lossless hplain.linkFree find_diskWithStalePart
    (by decide) (show 1 ≤ 2 by decide) (fun _ _ _ _ => hplain.deviceFree _)
  obtain ⟨written, hrun⟩ := hopen.2 (by
    intro i hi
    simp only [openForWriting, locate, walk_eq_walkLinks]
    obtain rfl | rfl : i = 0 ∨ i = 1 := by omega
    · exact ⟨"f_out0", _, by decide +kernel, rfl⟩
    · exact ⟨"f_out1", _, by decide +kernel, rfl⟩)
  obtain ⟨-, -, ⟨contents, hread, hflatten, -⟩, hsizes, -⟩ :=
    hwritten written _ (Prod.ext hrun rfl)
  exact ⟨written, _, Prod.ext hrun rfl, hsizes, contents, hread, hflatten⟩

end TestRig.Files
