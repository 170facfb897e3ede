/-
  TestRig.Proofs.Files.Interrupted

  Splits in which the system refuses something.  The source or the file of a part may not
  be opened, and copying may break off after any number of bytes (`splitUnder`).  Work on
  one part changes the file of this part alone (`filesChanged_writePartUnder`), so wherever
  the split ends, the parts in front are complete and those behind are untouched
  (`writePartsUnder_ended`).
-/
import TestRig.Proofs.Files.RandomSplit

namespace TestRig.Files

open FileSystem
open Text (encode)

/-! ## What the system refuses -/

/-- How the work on a part is refused. -/
inductive Fault where
  /-- The file of the part is not opened. -/
  | opening (reason : IoError)
  /-- Reading or writing fails when this many bytes of the part have been written. -/
  | copying (count : Nat) (reason : IoError)

/-- What is refused during a split, apart from what the file system refuses by itself. -/
structure Faults where
  /-- The source is not opened. -/
  source : Option IoError := none
  part : Nat → Option Fault := fun _ => none

/-- Writes one part, as `writePart` does, under a fault. -/
def writePartUnder (fault : Option Fault) (source : Location) (output : String)
    (offset want : Nat) (fs : FileSystem) : Except FileError Bytes × FileSystem :=
  match fault with
  | none => writePart source output offset want fs
  | some (.opening reason) => (.error (.ofIo output reason), fs)
  | some (.copying count reason) =>
    match writePart source output offset (min count want) fs with
    | (.ok _, fs) => (.error (.ofIo output reason), fs)
    | (.error e, fs) => (.error e, fs)

/-- Writes the parts from number `i` on, as `writeParts` does, under faults. -/
def writePartsUnder (faults : Nat → Option Fault) (source : Location) (dir name : String)
    (i offset : Nat) : List Nat → FileSystem → Except FileError (List SplitPart) × FileSystem
  | [], fs => (.ok [], fs)
  | want :: rest, fs =>
    match writePartUnder (faults i) source (partPath dir name i) offset want fs with
    | (.error e, fs) => (.error e, fs)
    | (.ok part, fs) =>
      match writePartsUnder faults source dir name (i + 1) (offset + part.length) rest fs with
      | (.ok parts, fs) =>
        (.ok (⟨partPath dir name i, UInt64.ofNat part.length⟩ :: parts), fs)
      | (.error e, fs) => (.error e, fs)

/-- Splits a file, as `split` does, under faults. -/
def splitUnder (faults : Faults) (fs : FileSystem) (path : String) (parts : Nat)
    (sizing : PartSizing) : Except FileError (List SplitPart) × FileSystem :=
  if parts = 0 then (.error (.invalidArgument "split into zero parts"), fs)
  else
    match Path.fileName? path, faults.source with
    | none, _ => (.error (.invalidArgument (path ++ " has no file name")), fs)
    | some _, some reason => (.error (.ofIo path reason), fs)
    | some name, none =>
      match onPath path (fs.find (encode path) .follow) with
      | .ok (source, node) =>
        writePartsUnder faults.part source ((Path.parent? path).getD ".") name 0 0
          (sizing.requests node.size parts) fs
      | .error e => (.error e, fs)

variable {fs fs' : FileSystem} {source : Location} {dir name output : String}

theorem writePartsUnder_none (source : Location) (dir name : String) (i offset : Nat)
    (wants : List Nat) (fs : FileSystem) :
    writePartsUnder (fun _ => none) source dir name i offset wants fs =
      writeParts source dir name i offset wants fs := by
  induction wants generalizing i offset fs with
  | nil => rfl
  | cons want rest ih =>
    rw [writePartsUnder, writeParts, writePartUnder]
    rcases writePart source (partPath dir name i) offset want fs with ⟨result, fs₁⟩
    cases result with
    | error e => rfl
    | ok part =>
      have hmore := ih (i + 1) (offset + part.length) fs₁
      rcases hrun : writeParts source dir name (i + 1) (offset + part.length) rest fs₁ with
        ⟨result, fs₂⟩
      rw [hrun] at hmore
      cases result with
      | error e => simp only [hmore, hrun]
      | ok parts => simp only [hmore, hrun]

/-- Without faults it is the split of the library. -/
theorem splitUnder_none (fs : FileSystem) (path : String) (parts : Nat) (sizing : PartSizing) :
    splitUnder {} fs path parts sizing = split fs path parts sizing := by
  unfold splitUnder split
  by_cases hparts : parts = 0
  · rw [if_pos hparts, if_pos hparts]
  rw [if_neg hparts, if_neg hparts]
  cases hname : Path.fileName? path with
  | none => rfl
  | some name =>
    simp only [writePartsUnder_none]
    -- a path is found where it is located, if something stands there
    unfold FileSystem.size FileSystem.find
    cases hlocate : fs.locate (encode path) .follow with
    | error e => rfl
    | ok source =>
      simp only [bind, Except.bind]
      cases hnode : fs.lookup source with
      | none => rfl
      | some node => rfl

/-! ## One part -/

/-- What comes of writing one part: it is complete, or its path is what the error names. -/
theorem writePart_cases (hlinks : fs.LinkFree) (hother : source ≠ fs.place (encode output))
    {offset want : Nat} (hfinite : Finite fs source want) :
    (∃ fs', writePart source output offset want fs =
        (.ok (((fs.contentAt source).drop offset).take want), fs') ∧
      (fs.DeviceFree (encode output) →
        fs'.content? (encode output) = some (((fs.contentAt source).drop offset).take want))) ∨
    ∃ reason fs', writePart source output offset want fs = (.error (.ofIo output reason), fs') := by
  rcases hrun : writePart source output offset want fs with ⟨result, fs₁⟩
  cases result with
  | error e =>
    obtain ⟨reason, rfl⟩ := writePart_eq_error hrun
    exact .inr ⟨reason, fs₁, rfl⟩
  | ok part =>
    obtain ⟨dest, hlocate, hdir, hchanged, hpart, hheld⟩ := writePart_eq_ok hrun
    obtain ⟨-, rfl⟩ := (locate_eq_ok_iff hlinks).1 hlocate
    rw [← hpart hother hfinite]
    refine .inl ⟨fs₁, rfl, fun hdevice => ?_⟩
    rw [content?, hchanged.place_eq]
    exact hheld (free_of_not_hasDirectory hdir (hlinks _) hdevice)

/-- Under a fault too, work on a part changes the file of this part alone. -/
theorem filesChanged_writePartUnder (hlinks : fs.LinkFree) (fault : Option Fault)
    (source : Location) (output : String) (offset want : Nat) :
    FilesChanged (· = fs.place (encode output)) fs
      (writePartUnder fault source output offset want fs).2 := by
  cases fault with
  | none => exact filesChanged_writePart hlinks source output offset want
  | some fault =>
    cases fault with
    | opening reason => exact .refl _ fs
    | copying count reason =>
      have hchanged := filesChanged_writePart hlinks source output offset (min count want)
      rw [writePartUnder]
      rcases hrun : writePart source output offset (min count want) fs with ⟨result, fs₁⟩
      rw [hrun] at hchanged
      cases result with
      | ok part => exact hchanged
      | error e => exact hchanged

theorem writePartUnder_cases (hlinks : fs.LinkFree) (fault : Option Fault)
    (hother : source ≠ fs.place (encode output)) {offset want : Nat}
    (hfinite : Finite fs source want) :
    (∃ fs', writePartUnder fault source output offset want fs =
        (.ok (((fs.contentAt source).drop offset).take want), fs') ∧
      (fs.DeviceFree (encode output) →
        fs'.content? (encode output) = some (((fs.contentAt source).drop offset).take want))) ∨
    ∃ reason fs', writePartUnder fault source output offset want fs =
      (.error (.ofIo output reason), fs') := by
  cases fault with
  | none => exact writePart_cases hlinks hother hfinite
  | some fault =>
    cases fault with
    | opening reason => exact .inr ⟨reason, fs, rfl⟩
    | copying count reason =>
      have hless : Finite fs source (min count want) :=
        hfinite.imp_left fun hzero => by rw [hzero, Nat.min_zero]
      rw [writePartUnder]
      rcases writePart_cases hlinks hother hless with ⟨fs₁, hrun, -⟩ | ⟨refusal, fs₁, hrun⟩
      · exact .inr ⟨reason, fs₁, by rw [hrun]⟩
      · exact .inr ⟨refusal, fs₁, by rw [hrun]⟩

/-! ## All parts -/

/-- The first `done` parts, numbered from `i` on, hold their contents, and nothing has changed but
files at the places of the first `touched` parts. -/
structure Progress (before after : FileSystem) (dir name : String) (i : Nat)
    (contents : List Bytes) (done touched : Nat) : Prop where
  changed : FilesChanged (IsPartPlace before dir name i touched) before after
  holds : ∀ j < done, ∀ part, contents[j]? = some part →
    before.DeviceFree (encode (partPath dir name (i + j))) →
    after.content? (encode (partPath dir name (i + j))) = some part

/-- How the writing of parts ends: all are complete, or it stops at one of them, and those behind it
are untouched. -/
inductive Ended (before : FileSystem) (dir name : String) (i : Nat) (contents : List Bytes) :
    Except FileError (List SplitPart) × FileSystem → Prop where
  | complete {after : FileSystem}
      (progress : Progress before after dir name i contents contents.length contents.length) :
      Ended before dir name i contents (.ok (partsOf dir name i contents), after)
  | stopped {after : FileSystem} {done : Nat} {reason : IoError} (begun : done < contents.length)
      (progress : Progress before after dir name i contents done (done + 1)) :
      Ended before dir name i contents
        (.error (.ofIo (partPath dir name (i + done)) reason), after)

variable {fs₁ fs₂ : FileSystem} {i : Nat} {contents : List Bytes}

/-- The parts behind the first one do not touch its file, so it stays complete. -/
theorem Progress.cons (hname : Path.IsName name)
    (hfirst : FilesChanged (· = fs.place (encode (partPath dir name i))) fs fs₁) {part : Bytes}
    (hpart : fs.DeviceFree (encode (partPath dir name i)) →
      fs₁.content? (encode (partPath dir name i)) = some part)
    {done touched : Nat} (h : Progress fs₁ fs₂ dir name (i + 1) contents done touched) :
    Progress fs fs₂ dir name i (part :: contents) (done + 1) (touched + 1) where
  changed := by
    refine (hfirst.mono ?_).trans (h.changed.mono ?_)
    · rintro loc rfl
      exact ⟨i, Nat.le_refl i, by omega, rfl⟩
    · rintro loc ⟨j, hlow, hhigh, rfl⟩
      exact ⟨j, by omega, by omega, hfirst.place_eq _⟩
  holds := by
    intro j hj other hother hdevice
    cases j with
    | zero =>
      obtain rfl := Option.some.inj hother
      rw [Nat.add_zero] at hdevice ⊢
      rw [← hpart hdevice, content?, content?, h.changed.place_eq]
      apply fileAt_congr
      apply h.changed.lookup_eq
      rintro ⟨k, hlow, -, hplace⟩
      have hsame : i = k := place_partPath_injective hname hplace
      omega
    | succ j =>
      rw [← Nat.add_assoc, Nat.add_right_comm] at hdevice ⊢
      exact h.holds j (by omega) other hother (hfirst.deviceFree_iff.2 hdevice)

/-- Wherever the writing of parts ends, the parts in front are complete and those behind are
untouched. -/
theorem writePartsUnder_ended (hlinks : fs.LinkFree) (hname : Path.IsName name)
    (hother : ∀ j, source ≠ fs.place (encode (partPath dir name j)))
    (faults : Nat → Option Fault) (i offset : Nat) {wants : List Nat}
    (hfinite : ∀ want ∈ wants, Finite fs source want) :
    Ended fs dir name i (chunks wants ((fs.contentAt source).drop offset))
      (writePartsUnder faults source dir name i offset wants fs) := by
  -- no part stands in the place of the source, so the next part reads on in the same content
  induction wants generalizing fs i offset with
  | nil => exact .complete ⟨.refl _ fs, fun j hj => absurd hj (Nat.not_lt_zero j)⟩
  | cons want rest ih =>
    have hchanged := filesChanged_writePartUnder hlinks (faults i) source (partPath dir name i)
      offset want
    rw [writePartsUnder]
    rcases writePartUnder_cases hlinks (faults i) (hother i) (hfinite want List.mem_cons_self) with
      ⟨fs₁, hrun, hpart⟩ | ⟨reason, fs₁, hrun⟩
    · rw [hrun] at hchanged
      have hlookup : fs₁.lookup source = fs.lookup source :=
        hchanged.lookup_eq source (hother i)
      have hrest := @ih fs₁ (hchanged.linkFree hlinks)
        (fun j => by rw [hchanged.place_eq]; exact hother j) (i + 1)
        (offset + (((fs.contentAt source).drop offset).take want).length)
        (fun other hmem => by
          rw [Finite, hlookup]
          exact hfinite other (List.mem_cons_of_mem _ hmem))
      rw [contentAt_congr hlookup, drop_length_take] at hrest
      rw [chunks]
      simp only [hrun]
      rcases hmore : writePartsUnder faults source dir name (i + 1)
        (offset + (((fs.contentAt source).drop offset).take want).length) rest fs₁ with
        ⟨result, fs₂⟩
      rw [hmore] at hrest
      cases hrest with
      | complete progress => exact .complete (.cons hname hchanged hpart progress)
      | @stopped _ done reason begun progress =>
        have hnumber : i + 1 + done = i + (done + 1) := by omega
        rw [hnumber]
        exact .stopped (Nat.succ_lt_succ begun) (.cons hname hchanged hpart progress)
    · rw [hrun] at hchanged
      have hbegun : 0 < (chunks (want :: rest) ((fs.contentAt source).drop offset)).length :=
        Nat.zero_lt_succ _
      simp only [hrun]
      have hprogress : Progress fs fs₁ dir name i
          (chunks (want :: rest) ((fs.contentAt source).drop offset)) 0 1 := by
        refine ⟨hchanged.mono ?_, fun j hj => absurd hj (Nat.not_lt_zero j)⟩
        rintro loc rfl
        exact ⟨i, Nat.le_refl i, by omega, rfl⟩
      exact @Ended.stopped fs dir name i _ fs₁ 0 reason hbegun hprogress

/-! ## Splitting -/

variable {path : String} {parts : Nat} {faults : Faults}

/-- Where part `i` of the file `name` in the directory at `dir` stands. -/
def partAt (dir : Location) (name : String) (i : Nat) : Location :=
  dir ++ [encode (name ++ "_out" ++ toString i)]

theorem partAt_injective {dir : Location} {i j : Nat} (h : partAt dir name i = partAt dir name j) :
    i = j := by
  have hname := (List.append_singleton_inj.1 h).2
  exact part_injective (Text.encode_injective hname)

theorem partAt_ne (dir : Location) (name : String) (i : Nat) :
    partAt dir name i ≠ dir ++ [encode name] := by
  intro h
  have hname := (List.append_singleton_inj.1 h).2
  exact part_ne name i (Text.encode_injective hname)

/-- The parts stand in the directory of the file. -/
theorem place_output (fs : FileSystem) (hname : Path.fileName? path = some name) (i : Nat) :
    fs.place (encode (partPath ((Path.parent? path).getD ".") name i)) =
      partAt (fs.place (encode ((Path.parent? path).getD "."))) name i :=
  place_join fs _ (isName_part (Path.isName_of_fileName? hname) i)

/-- Nothing is asked of what is empty. -/
theorem requests_zero (sizing : PartSizing) (hparts : 1 ≤ parts) :
    ∀ want ∈ sizing.requests 0 parts, want = 0 := by
  intro want hwant
  cases sizing with
  | equal =>
    have hsum : want ≤ (PartSizing.equal.requests 0 parts).sum := List.le_sum_of_mem hwant
    rw [sum_requests_equal 0 hparts] at hsum
    exact Nat.le_zero.1 hsum
  | random =>
    have hasks := asksWithin_requests (show 0 < 2 ^ 64 by decide) parts
    exact Nat.le_zero.1 (hasks.upper want hwant)

/-- The endless device has no size, so nothing is asked of it. -/
theorem finite_of_mem_requests (sizing : PartSizing) {node : Node}
    (hnode : fs.lookup source = some node) (hparts : 1 ≤ parts) :
    ∀ want ∈ sizing.requests node.size parts, Finite fs source want := by
  intro want hwant
  by_cases hdevice : node = .device .zero
  · rw [hdevice] at hwant
    exact .inl (requests_zero sizing hparts want hwant)
  · right
    rw [hnode]
    exact fun heq => hdevice (Option.some.inj heq)

/-- Nothing is done without parts, without a name for them, or without a source. -/
theorem splitUnder_refused (sizing : PartSizing)
    (h : parts = 0 ∨ Path.fileName? path = none ∨ faults.source ≠ none ∨
      ∀ found, fs.find (encode path) .follow ≠ .ok found) :
    ∃ e, splitUnder faults fs path parts sizing = (.error e, fs) := by
  unfold splitUnder
  by_cases hparts : parts = 0
  · exact ⟨_, if_pos hparts⟩
  rw [if_neg hparts]
  have hothers := h.resolve_left hparts
  cases hname : Path.fileName? path with
  | none => exact ⟨_, rfl⟩
  | some name =>
    cases hsource : faults.source with
    | some reason => exact ⟨_, rfl⟩
    | none =>
      cases hfind : fs.find (encode path) .follow with
      | error reason => exact ⟨_, rfl⟩
      | ok found =>
        rcases hothers with hnone | hfault | hmissing
        · simp [hname] at hnone
        · exact absurd hsource hfault
        · exact absurd hfind (hmissing found)

/-- Otherwise the parts are written, up to the first that is refused. -/
theorem splitUnder_ended (hlinks : fs.LinkFree) (sizing : PartSizing) {node : Node}
    (hparts : 1 ≤ parts) (hname : Path.fileName? path = some name) (hfaults : faults.source = none)
    (hfind : fs.find (encode path) .follow = .ok (source, node)) :
    Ended fs ((Path.parent? path).getD ".") name 0
      (chunks (sizing.requests node.size parts) (fs.contentAt source))
      (splitUnder faults fs path parts sizing) := by
  have hnonzero : parts ≠ 0 := by omega
  obtain ⟨-, rfl, hnode⟩ := (find_eq_ok_iff hlinks).1 hfind
  have hended := writePartsUnder_ended hlinks (Path.isName_of_fileName? hname)
    (place_ne_place_partPath hname ((Path.parent? path).getD ".")) faults.part 0 0
    (finite_of_mem_requests sizing hnode hparts)
  rw [List.drop_zero] at hended
  unfold splitUnder
  simp only [if_neg hnonzero, hname, hfaults, hfind, onPath_ok]
  exact hended

theorem isPartPlace_iff (hname : Path.fileName? path = some name) {count : Nat} {loc : Location} :
    IsPartPlace fs ((Path.parent? path).getD ".") name 0 count loc ↔
      ∃ i < count, loc = partAt (fs.place (encode ((Path.parent? path).getD "."))) name i := by
  unfold IsPartPlace
  simp only [place_output fs hname, Nat.zero_le, true_and, Nat.zero_add]

/-- A complete part holds the bytes that it asks for, as far as the content goes. -/
theorem Progress.fileAt_eq (hname : Path.fileName? path = some name) {requests : List Nat}
    {content : Bytes} {done touched : Nat}
    (h : Progress fs fs' ((Path.parent? path).getD ".") name 0 (chunks requests content) done touched)
    {i want : Nat} (hi : i < done) (hwant : requests[i]? = some want)
    (hdevice : ∀ device, fs.lookup (partAt (fs.place (encode ((Path.parent? path).getD "."))) name i) ≠
      some (.device device)) :
    fs'.fileAt (partAt (fs.place (encode ((Path.parent? path).getD "."))) name i) =
      some ((content.drop (requests.take i).sum).take want) := by
  have hchunk : (chunks requests content)[i]? =
      some ((content.drop (requests.take i).sum).take want) := by
    rw [getElem?_chunks, hwant, Option.map_some]
  have hheld := h.holds i hi _ hchunk
  rw [Nat.zero_add] at hheld
  have hplace := place_output fs hname i
  rw [content?, h.changed.place_eq, DeviceFree, hplace] at hheld
  exact hheld hdevice

/-- What a split that began with its parts leaves behind. -/
theorem Ended.outputs (hname : Path.fileName? path = some name) {requests : List Nat}
    {content : Bytes} {run : Except FileError (List SplitPart) × FileSystem}
    (h : Ended fs ((Path.parent? path).getD ".") name 0 (chunks requests content) run) :
    let dir := fs.place (encode ((Path.parent? path).getD "."))
    ∃ done ≤ requests.length,
      (∀ i < done, ∀ want, requests[i]? = some want →
        (∀ device, fs.lookup (partAt dir name i) ≠ some (.device device)) →
        run.2.fileAt (partAt dir name i) =
          some ((content.drop (requests.take i).sum).take want)) ∧
      FilesChanged (fun loc => ∃ i < requests.length, loc = partAt dir name i) fs run.2 ∧
      ((done = requests.length ∧ ∃ written, run.1 = .ok written) ∨
        (done < requests.length ∧
          (∃ output reason, outputPath? path done = some output ∧
            run.1 = .error (.ofIo output reason)) ∧
          FilesChanged (fun loc => ∃ i ≤ done, loc = partAt dir name i) fs run.2)) := by
  intro dir
  cases h with
  | complete progress =>
    have hchanged := progress.changed
    rw [length_chunks] at hchanged
    refine ⟨requests.length, Nat.le_refl _, ?_, hchanged.mono fun _ => (isPartPlace_iff hname).1,
      .inl ⟨rfl, _, rfl⟩⟩
    intro i hi want hwant hdevice
    exact progress.fileAt_eq hname (by rwa [length_chunks]) hwant hdevice
  | @stopped _ done reason begun progress =>
    rw [length_chunks] at begun
    have hchanged := progress.changed.mono fun _ => (isPartPlace_iff hname).1
    refine ⟨done, Nat.le_of_lt begun, fun i hi want => progress.fileAt_eq hname hi,
      hchanged.mono ?_, .inr ⟨begun, ⟨_, reason, outputPath?_eq hname done, ?_⟩, hchanged.mono ?_⟩⟩
    · rintro loc ⟨i, hi, hplace⟩
      exact ⟨i, by omega, hplace⟩
    · rw [Nat.zero_add]
    · rintro loc ⟨i, hi, hplace⟩
      exact ⟨i, by omega, hplace⟩

/-- A split touches its own outputs alone, whatever is refused on the way.  Nothing at all is changed
without parts, without a name for them, or if the source cannot be opened.  The outputs stand beside
the source under names of their own, and only files at their places are changed or new, so the source
stays as it is.  Once the source is open the split ends behind a number of complete parts: each holds
the bytes of the source that it asks for, behind those of the parts in front of it and as far as the
source goes.  Either these are all parts, or the error names the path of the next one, and the files
behind that one are untouched. -/
theorem split_touches_outputs_alone (hlinks : fs.LinkFree) (path : String) (parts : Nat)
    (sizing : PartSizing) (faults : Faults) :
    let run := splitUnder faults fs path parts sizing
    splitUnder {} fs path parts sizing = split fs path parts sizing ∧
    ((parts = 0 ∨ Path.fileName? path = none ∨ faults.source ≠ none ∨
        ∀ found, fs.find (encode path) .follow ≠ .ok found) →
      run.2 = fs ∧ ∃ e, run.1 = .error e) ∧
    ∀ name, Path.fileName? path = some name → ∃ dir,
      fs.place (encode path) = dir ++ [encode name] ∧
      (∀ i, ∃ output, outputPath? path i = some output ∧
        fs.place (encode output) = partAt dir name i) ∧
      (∀ i j, partAt dir name i = partAt dir name j → i = j) ∧
      (∀ i, partAt dir name i ≠ dir ++ [encode name]) ∧
      FilesChanged (fun loc => ∃ i < parts, loc = partAt dir name i) fs run.2 ∧
      run.2.lookup (dir ++ [encode name]) = fs.lookup (dir ++ [encode name]) ∧
      (1 ≤ parts → faults.source = none →
        ∀ source node, fs.find (encode path) .follow = .ok (source, node) →
          let requests := sizing.requests node.size parts
          ∃ done ≤ parts,
            (∀ i < done, ∀ want, requests[i]? = some want →
              (∀ device, fs.lookup (partAt dir name i) ≠ some (.device device)) →
              run.2.fileAt (partAt dir name i) =
                some (((fs.contentAt source).drop (requests.take i).sum).take want)) ∧
            ((done = parts ∧ ∃ written, run.1 = .ok written) ∨
              (done < parts ∧
                (∃ output reason, outputPath? path done = some output ∧
                  run.1 = .error (.ofIo output reason)) ∧
                FilesChanged (fun loc => ∃ i ≤ done, loc = partAt dir name i) fs run.2))) := by
  intro run
  refine ⟨splitUnder_none fs path parts sizing, ?_, ?_⟩
  · intro h
    obtain ⟨e, hrun⟩ := splitUnder_refused sizing h
    exact ⟨congrArg Prod.snd hrun, e, congrArg Prod.fst hrun⟩
  intro name hname
  have hsource := place_parent fs hname
  -- what is changed, and how far the parts came if they were begun
  have hframe : FilesChanged (fun loc => ∃ i < parts,
      loc = partAt (fs.place (encode ((Path.parent? path).getD "."))) name i) fs run.2 := by
    by_cases hbegun : 1 ≤ parts ∧ faults.source = none ∧
        ∃ found, fs.find (encode path) .follow = .ok found
    · obtain ⟨hparts, hfaults, ⟨source, node⟩, hfind⟩ := hbegun
      have hended := splitUnder_ended hlinks sizing hparts hname hfaults hfind
      obtain ⟨-, -, -, hchanged, -⟩ := hended.outputs hname
      rwa [length_requests sizing node.size hparts] at hchanged
    · have hrefused : parts = 0 ∨ Path.fileName? path = none ∨ faults.source ≠ none ∨
          ∀ found, fs.find (encode path) .follow ≠ .ok found := by
        by_cases hparts : parts = 0
        · exact .inl hparts
        by_cases hfaults : faults.source = none
        · refine .inr (.inr (.inr fun found hfind => ?_))
          exact hbegun ⟨by omega, hfaults, found, hfind⟩
        · exact .inr (.inr (.inl hfaults))
      obtain ⟨e, hrun⟩ := splitUnder_refused sizing hrefused
      have hsame : run.2 = fs := congrArg Prod.snd hrun
      rw [hsame]
      exact .refl _ fs
  refine ⟨fs.place (encode ((Path.parent? path).getD ".")), hsource, ?_,
    fun i j => partAt_injective, partAt_ne _ name, hframe, ?_, ?_⟩
  · exact fun i => ⟨_, outputPath?_eq hname i, place_output fs hname i⟩
  · apply hframe.lookup_eq
    rintro ⟨i, -, hplace⟩
    exact partAt_ne _ name i hplace.symm
  · intro hparts hfaults source node hfind
    have hended := splitUnder_ended hlinks sizing hparts hname hfaults hfind
    obtain ⟨done, hdone, hholds, -, hresult⟩ := hended.outputs hname
    rw [length_requests sizing node.size hparts] at hdone hresult
    exact ⟨done, hdone, hholds, hresult⟩

/-- The disk is full when the second of three parts is written: the first one is complete, and there
is no third. -/
theorem split_touches_outputs_alone_disk_full :
    let faults : Faults := ⟨none, fun i => if i = 1 then some (.copying 0 (.system 28)) else none⟩
    let run := splitUnder faults diskWithStalePart "f" 3 .equal
    run.1 = .error (.io "f_out1" "No space left on device (os error 28)") ∧
      run.2.lookup [encode "f"] = some (.file 0o644 [1, 2, 3]) ∧
      run.2.fileAt [encode "f_out0"] = some [1] ∧ run.2.lookup [encode "f_out2"] = none := by
  intro faults run
  have hplain : diskWithStalePart.Plain :=
    plain_of_nodes (by simp [diskWithStalePart, Node.isFile])
  have herror : run.1 = .error (.io "f_out1" "No space left on device (os error 28)") := by
    have hname : Path.fileName? "f" = some "f" := by decide
    have hdir : (Path.parent? "f").getD "." = "" := by decide
    have hrequests : PartSizing.equal.requests (Node.file 0o644 [1, 2, 3]).size 3 = [1, 1, 1] := by
      decide
    simp only [run, faults, splitUnder, hname, find_diskWithStalePart, onPath_ok, hdir, hrequests,
      writePartsUnder, writePartUnder, writePart, openForWriting, locate, walk_eq_walkLinks]
    decide +kernel
  obtain ⟨-, -, houtputs⟩ :=
    split_touches_outputs_alone hplain.linkFree "f" 3 .equal faults
  obtain ⟨dir, hdir, -, -, -, -, hsource, hprogress⟩ := houtputs "f" (by decide)
  obtain rfl : dir = [] := by
    have hplace : diskWithStalePart.place (encode "f") = [] ++ [encode "f"] := by
      decide +kernel
    exact (List.append_singleton_inj.1 (hdir.symm.trans hplace)).1
  refine ⟨herror, hsource, ?_⟩
  obtain ⟨done, -, hholds, ⟨-, written, hok⟩ | ⟨hdone, ⟨output, reason, houtput, hreason⟩, hframe⟩⟩ :=
    hprogress (by decide) rfl _ _ find_diskWithStalePart
  · have hnever := herror.symm.trans hok
    cases hnever
  · -- the error names the part at which the split ended
    have hnamed : output = "f_out1" := by
      have hsame := Except.error.inj (hreason.symm.trans herror)
      unfold FileError.ofIo at hsame
      split_ifs at hsame
      exact (FileError.io.inj hsame).1
    have hsecond : done = 1 := by
      have hzero : outputPath? "f" 0 ≠ some "f_out1" := by decide
      have htwo : outputPath? "f" 2 ≠ some "f_out1" := by decide
      rw [hnamed] at houtput
      obtain rfl | rfl | rfl : done = 0 ∨ done = 1 ∨ done = 2 := by omega
      · exact absurd houtput hzero
      · rfl
      · exact absurd houtput htwo
    subst hsecond
    constructor
    · refine hholds 0 (by decide) 1 (by decide) fun device hdevice => ?_
      have hnode := hplain _ _ hdevice
      simp [Node.isFile, Node.isDirectory] at hnode
    · rw [hframe.lookup_eq]
      · decide +kernel
      · rintro ⟨i, hi, hplace⟩
        have hsame : partAt [] "f" 2 = partAt [] "f" i := hplace
        have hthird : 2 = i := partAt_injective hsame
        omega

end TestRig.Files
