/-
  TestRig.Proofs.Files.Landing

  Where the parts of a file land.  Outputs may be symbolic links, so a part may land in the
  file of another part, or in the source.  If none leads to the source, the parts hold its
  content cut into what they ask for (`writeParts_eq_ok`), and each file to which outputs
  lead holds the last part written to it (`Landed`).  If no two lead to one file either, each
  output holds its own part (`Landed.map_read`).
-/
import TestRig.Proofs.FileSystem.Leading
import TestRig.Proofs.Files.Split

namespace TestRig.Files

open FileSystem
open Text (encode)

variable {fs fs' fs₁ fs₂ after : FileSystem} {source : Location} {dir name output path : String}

/-! ## One part -/

/-- The next bytes of a source that gives bytes only as long as it has some. -/
def Finite (fs : FileSystem) (source : Location) (want : Nat) : Prop :=
  want = 0 ∨ fs.lookup source ≠ some (.device .zero)

theorem contentAt_congr {loc : Location} (h : fs'.lookup loc = fs.lookup loc) :
    fs'.contentAt loc = fs.contentAt loc := by
  unfold contentAt
  rw [h]

/-- What is read are the next bytes of the content. -/
theorem readAt_eq_ok {loc : Location} {offset want : Nat} {part : Bytes}
    (h : fs.readAt loc offset want = .ok part) (hfinite : Finite fs loc want) :
    part = ((fs.contentAt loc).drop offset).take want := by
  unfold readAt at h
  split at h
  · rename_i hzero
    obtain rfl := Except.ok.inj h
    rw [hzero, List.take_zero]
  · rename_i hwant
    have hdevice := hfinite.resolve_left hwant
    unfold contentAt
    cases hnode : fs.lookup loc with
    | none => simp_all
    | some node =>
      cases node with
      | file mode content => simp_all
      | directory mode => simp_all
      | link target => simp_all
      | device device => cases device <;> simp_all

/-- A part that is written stands where its path leads, and unless that is the source itself, it
holds the next bytes of the source. -/
theorem writePart_eq_ok {offset want : Nat} {part : Bytes}
    (hrun : writePart source output offset want fs = (.ok part, fs')) :
    ∃ dest, fs.locate (encode output) .follow = .ok dest ∧ ¬ fs.HasDirectory dest ∧
      FilesChanged (· = dest) fs fs' ∧
      (source ≠ dest → Finite fs source want →
        part = ((fs.contentAt source).drop offset).take want) ∧
      (fs.Free dest → fs'.fileAt dest = some part) := by
  rw [writePart] at hrun
  cases hopen : fs.openForWriting (encode output) true 0o666 with
  | error reason => simp [hopen] at hrun
  | ok opened =>
    obtain ⟨dest, fs₁⟩ := opened
    obtain ⟨hlocate, hdir, -⟩ := openForWriting_cases hopen
    have hopened := filesChanged_openForWriting hopen
    simp only [hopen, onPath_ok] at hrun
    cases hread : fs₁.readAt source offset want with
    | error reason => simp [hread] at hrun
    | ok bytes =>
      obtain ⟨rfl, rfl⟩ : bytes = part ∧ fs₁.setContent dest bytes = fs' := by
        simpa [hread] using hrun
      refine ⟨dest, hlocate, hdir, hopened.trans (filesChanged_setContent fs₁ dest bytes), ?_, ?_⟩
      · intro hother hfinite
        have hlookup : fs₁.lookup source = fs.lookup source := hopened.lookup_eq source hother
        rw [← contentAt_congr hlookup]
        refine readAt_eq_ok hread ?_
        rwa [Finite, hlookup]
      · exact fun hfree => fileAt_setContent (fileAt_openForWriting hopen hfree) bytes

theorem writePart_eq_error {offset want : Nat} {e : FileError}
    (hrun : writePart source output offset want fs = (.error e, fs')) :
    ∃ reason, e = .ofIo output reason := by
  rw [writePart] at hrun
  cases hopen : fs.openForWriting (encode output) true 0o666 with
  | error reason =>
    obtain ⟨rfl, -⟩ : FileError.ofIo output reason = e ∧ fs = fs' := by simpa [hopen] using hrun
    exact ⟨reason, rfl⟩
  | ok opened =>
    obtain ⟨dest, fs₁⟩ := opened
    simp only [hopen, onPath_ok] at hrun
    cases hread : fs₁.readAt source offset want with
    | error reason =>
      obtain ⟨rfl, -⟩ : FileError.ofIo output reason = e ∧ fs₁ = fs' := by simpa [hread] using hrun
      exact ⟨reason, rfl⟩
    | ok bytes => simp [hread] at hrun

/-- A part of a file is written if its own file can be opened. -/
theorem exists_writePart_iff (hsource : (fs.fileAt source).isSome = true) (output : String)
    (offset want : Nat) :
    (∃ part fs', writePart source output offset want fs = (.ok part, fs')) ↔
      ∃ opened, fs.openForWriting (encode output) true 0o666 = .ok opened := by
  rw [writePart]
  cases hopen : fs.openForWriting (encode output) true 0o666 with
  | error reason => simp
  | ok opened =>
    obtain ⟨dest, fs₁⟩ := opened
    -- if it is the source itself that was opened, that is empty now, but still a file
    have hstill := (filesChanged_openForWriting hopen).isSome_fileAt hsource
    obtain ⟨content, hcontent⟩ := Option.isSome_iff_exists.1 hstill
    simp [readAt_of_fileAt hcontent]

/-! ## All parts -/

/-- Part `k` is the last of the first `count` parts that lead to a location. -/
structure LastTo (leads : Nat → Option Location) (count : Nat) (loc : Location) (k : Nat) :
    Prop where
  lt : k < count
  led : leads k = some loc
  last : ∀ j < count, leads j = some loc → j ≤ k

/-- If those that lead to a location are the same among fewer parts and among more, the last one
is. -/
theorem LastTo.eq {leads₁ leads₂ : Nat → Option Location} {n m : Nat} {loc₁ loc₂ : Location}
    {k₁ k₂ : Nat} (h₁ : LastTo leads₁ n loc₁ k₁) (h₂ : LastTo leads₂ m loc₂ k₂) (hnm : n ≤ m)
    (hshared : ∀ j < m, leads₂ j = some loc₂ ↔ j < n ∧ leads₁ j = some loc₁) : k₁ = k₂ := by
  have hlt₁ : k₁ < m := Nat.lt_of_lt_of_le h₁.lt hnm
  obtain ⟨hlt₂, hled₂⟩ := (hshared k₂ h₂.lt).1 h₂.led
  exact Nat.le_antisymm (h₂.last k₁ hlt₁ ((hshared k₁ hlt₁).2 ⟨h₁.lt, h₁.led⟩))
    (h₁.last k₂ hlt₂ hled₂)

/-- The parts with the contents were written where they lead.  Files there alone have changed, and
each holds the last of the parts that lead to it. -/
structure Landed (leads : Nat → Option Location) (before after : FileSystem)
    (contents : List Bytes) : Prop where
  opened : ∀ j < contents.length, ∃ loc, leads j = some loc ∧ ¬ before.HasDirectory loc
  changed : FilesChanged (fun loc => ∃ j < contents.length, leads j = some loc) before after
  holds : ∀ j < contents.length, ∀ loc, leads j = some loc → before.Free loc →
    ∃ k part, LastTo leads contents.length loc k ∧ contents[k]? = some part ∧
      after.fileAt loc = some part

/-- The file of the first part holds it, unless a later part leads there too. -/
theorem Landed.cons {leads : Nat → Option Location} {dest : Location} {part : Bytes}
    {contents : List Bytes} (hled : leads 0 = some dest) (hdir : ¬ fs.HasDirectory dest)
    (hchanged : FilesChanged (· = dest) fs fs₁) (hheld : fs.Free dest → fs₁.fileAt dest = some part)
    (h : Landed (fun j => leads (j + 1)) fs₁ fs₂ contents) :
    Landed leads fs fs₂ (part :: contents) where
  opened j hj := by
    cases j with
    | zero => exact ⟨dest, hled, hdir⟩
    | succ j =>
      obtain ⟨loc, hloc, hopen⟩ := h.opened j (Nat.lt_of_succ_lt_succ hj)
      exact ⟨loc, hloc, fun hdir => hopen (hchanged.hasDirectory_iff.2 hdir)⟩
  changed := by
    refine (hchanged.mono ?_).trans (h.changed.mono ?_)
    · rintro loc rfl
      exact ⟨0, Nat.zero_lt_succ _, hled⟩
    · rintro loc ⟨j, hj, hloc⟩
      exact ⟨j + 1, Nat.succ_lt_succ hj, hloc⟩
  holds j hj loc hloc hfree := by
    -- the last part that leads there is a later one, unless the first one alone does
    by_cases hlater : ∃ l < contents.length, leads (l + 1) = some loc
    · obtain ⟨l, hl, hlloc⟩ := hlater
      obtain ⟨k, held, hlast, hpart, hcontent⟩ :=
        h.holds l hl loc hlloc (hchanged.free_iff.2 hfree)
      refine ⟨k + 1, held, ⟨Nat.succ_lt_succ hlast.lt, hlast.led, fun i hi hiloc => ?_⟩, hpart,
        hcontent⟩
      cases i with
      | zero => exact Nat.zero_le _
      | succ i => exact Nat.succ_le_succ (hlast.last i (Nat.lt_of_succ_lt_succ hi) hiloc)
    · have hfirst : ∀ i < (part :: contents).length, leads i = some loc → i = 0 := by
        intro i hi hiloc
        cases i with
        | zero => rfl
        | succ i => exact absurd ⟨i, Nat.lt_of_succ_lt_succ hi, hiloc⟩ hlater
      obtain rfl := hfirst j hj hloc
      obtain rfl : dest = loc := Option.some.inj (hled.symm.trans hloc)
      refine ⟨0, part, ⟨Nat.zero_lt_succ _, hled, fun i hi hiloc => ?_⟩, rfl, ?_⟩
      · exact Nat.le_of_eq (hfirst i hi hiloc)
      · rw [← hheld hfree]
        exact fileAt_congr (h.changed.lookup_eq dest hlater)

/-- Parts that were all written, none of them to the source, hold its content cut into what they
ask for. -/
theorem writeParts_eq_ok {i offset : Nat} {wants : List Nat} {written : List SplitPart}
    (hown : ∀ j < wants.length, fs.leads? (encode (partPath dir name (i + j))) ≠ some source)
    (hfinite : ∀ want ∈ wants, Finite fs source want)
    (hrun : writeParts source dir name i offset wants fs = (.ok written, after)) :
    written = partsOf dir name i (chunks wants ((fs.contentAt source).drop offset)) ∧
      Landed (fun j => fs.leads? (encode (partPath dir name (i + j)))) fs after
        (chunks wants ((fs.contentAt source).drop offset)) := by
  -- the source stays as it is, so the next part reads on in the same content
  induction wants generalizing fs i offset written with
  | nil =>
    obtain ⟨rfl, rfl⟩ : [] = written ∧ fs = after := by simpa [writeParts] using hrun
    exact ⟨rfl, fun j hj => absurd hj (Nat.not_lt_zero j), .refl _ fs,
      fun j hj => absurd hj (Nat.not_lt_zero j)⟩
  | cons want rest ih =>
    rw [writeParts] at hrun
    rcases hfirst : writePart source (partPath dir name i) offset want fs with ⟨result, fs₁⟩
    rw [hfirst] at hrun
    cases result with
    | error e => simp at hrun
    | ok part =>
      simp only at hrun
      rcases hmore : writeParts source dir name (i + 1) (offset + part.length) rest fs₁ with
        ⟨result, fs₂⟩
      rw [hmore] at hrun
      cases result with
      | error e => simp at hrun
      | ok parts =>
        obtain ⟨rfl, rfl⟩ : partOf dir name i part :: parts = written ∧ fs₂ = after := by
          simpa [partOf] using hrun
        obtain ⟨dest, hlocate, hdir, hchanged, hpart, hheld⟩ := writePart_eq_ok hfirst
        have hled : fs.leads? (encode (partPath dir name i)) = some dest :=
          leads?_eq_some_iff.2 hlocate
        have hother : source ≠ dest := by
          rintro rfl
          exact hown 0 (Nat.zero_lt_succ _) hled
        have hlookup : fs₁.lookup source = fs.lookup source := hchanged.lookup_eq source hother
        have hleads : ∀ j, fs₁.leads? (encode (partPath dir name (i + 1 + j))) =
            fs.leads? (encode (partPath dir name (i + (j + 1)))) := fun j => by
          rw [hchanged.leads?_eq, Nat.add_assoc, Nat.add_comm 1 j]
        obtain ⟨hparts, hlanded⟩ := @ih fs₁ (i + 1) (offset + part.length) parts
          (fun j hj => by rw [hleads]; exact hown (j + 1) (Nat.succ_lt_succ hj))
          (fun other hmem => by
            rw [Finite, hlookup]
            exact hfinite other (List.mem_cons_of_mem _ hmem)) hmore
        have hbytes := hpart hother (hfinite want List.mem_cons_self)
        rw [contentAt_congr hlookup, hbytes, drop_length_take] at hparts hlanded
        simp only [hleads] at hlanded
        rw [hbytes] at hheld
        rw [chunks, partsOf, ← hparts, hbytes]
        exact ⟨rfl, .cons hled hdir hchanged hheld hlanded⟩

/-- The parts of a file are all written exactly when their own files can all be opened. -/
theorem exists_writeParts_iff (hname : Path.IsName name)
    (hsource : (fs.fileAt source).isSome = true) (i offset : Nat) (wants : List Nat) :
    (∃ written, (writeParts source dir name i offset wants fs).1 = .ok written) ↔
      ∀ j < wants.length, ∃ opened,
        fs.openForWriting (encode (partPath dir name (i + j))) true 0o666 = .ok opened := by
  induction wants generalizing fs i offset with
  | nil => simp [writeParts]
  | cons want rest ih =>
    have hopen := exists_writePart_iff hsource (partPath dir name i) offset want
    rw [List.length_cons, Nat.forall_lt_succ_left, Nat.add_zero, ← hopen, writeParts]
    rcases hfirst : writePart source (partPath dir name i) offset want fs with ⟨result, fs₁⟩
    cases result with
    | error e => simp
    | ok part =>
      obtain ⟨dest, -, -, hchanged, -⟩ := writePart_eq_ok hfirst
      have hrest := ih (hchanged.isSome_fileAt hsource) (i + 1) (offset + part.length)
      have hopens : ∀ j, (∃ opened,
            fs₁.openForWriting (encode (partPath dir name (i + 1 + j))) true 0o666 = .ok opened) ↔
          ∃ opened,
            fs.openForWriting (encode (partPath dir name (i + (j + 1)))) true 0o666 = .ok opened :=
        fun j => by
          rw [Nat.add_assoc, Nat.add_comm 1 j]
          exact hchanged.exists_openForWriting_iff (getLast?_encode_join (isName_part hname _) dir) _
      simp only [hopens] at hrest
      rw [← hrest]
      rcases hmore : writeParts source dir name (i + 1) (offset + part.length) rest fs₁ with
        ⟨more, fs₂⟩
      cases more with
      | error e => simp [hmore]
      | ok parts => simp [hmore]

/-! ## Outputs -/

/-- Where output `i` of a split leads. -/
def outputAt? (fs : FileSystem) (path : String) (i : Nat) : Option Location :=
  (outputPath? path i).bind fun output => fs.leads? (encode output)

theorem outputAt?_eq (hname : Path.fileName? path = some name) (i : Nat) :
    outputAt? fs path i =
      fs.leads? (encode (partPath ((Path.parent? path).getD ".") name i)) := by
  rw [outputAt?, outputPath?_eq hname]
  rfl

theorem locate_of_outputAt? {i : Nat} {loc : Location} (houtput : outputPath? path i = some output)
    (hled : outputAt? fs path i = some loc) : fs.locate (encode output) .follow = .ok loc := by
  rwa [outputAt?, houtput, Option.bind_some, leads?_eq_some_iff] at hled

/-- No output of a split leads to its source. -/
def LeavesSource (fs : FileSystem) (path : String) (source : Location) (parts : Nat) : Prop :=
  ∀ i < parts, outputAt? fs path i ≠ some source

/-- Each output of a split leads to a file of its own: a file stands there, or nothing, or else a
directory, which cannot be opened; and no other output leads there. -/
structure OwnOutputs (fs : FileSystem) (path : String) (parts : Nat) : Prop where
  plain : ∀ i < parts, ∀ loc, outputAt? fs path i = some loc → fs.PlainAt loc
  apart : ∀ i < parts, ∀ j < parts, ∀ loc, outputAt? fs path i = some loc →
    outputAt? fs path j = some loc → i = j

/-- The parts beside a file, all of them written and none of them to the file itself. -/
theorem writeParts_landed (hname : Path.fileName? path = some name) {requests : List Nat}
    (hown : LeavesSource fs path source requests.length)
    (hfinite : ∀ want ∈ requests, Finite fs source want) {written : List SplitPart}
    (hrun : writeParts source ((Path.parent? path).getD ".") name 0 0 requests fs =
      (.ok written, after)) :
    let contents := chunks requests (fs.contentAt source)
    written = partsOf ((Path.parent? path).getD ".") name 0 contents ∧
      Landed (outputAt? fs path) fs after contents := by
  have hleads : outputAt? fs path =
      fun i => fs.leads? (encode (partPath ((Path.parent? path).getD ".") name (0 + i))) := by
    funext i
    rw [outputAt?_eq hname, Nat.zero_add]
  rw [hleads]
  refine writeParts_eq_ok (fun j hj => ?_) hfinite hrun
  rw [Nat.zero_add, ← outputAt?_eq hname]
  exact hown j hj

/-- Outputs that lead to files of their own hold the parts. -/
theorem Landed.map_read {contents : List Bytes} (h : Landed (outputAt? fs path) fs after contents)
    (hname : Path.fileName? path = some name) (hown : OwnOutputs fs path contents.length) :
    (partsOf ((Path.parent? path).getD ".") name 0 contents).map
        (fun part => after.read (encode part.output)) = contents.map .ok := by
  rw [map_comp_output_partsOf fun output => after.read (encode output)]
  refine List.ext_getElem (by simp) fun i hi _ => ?_
  rw [List.length_map, List.length_range] at hi
  obtain ⟨loc, hled, hdir⟩ := h.opened i hi
  obtain ⟨k, part, hlast, hpart, hheld⟩ :=
    h.holds i hi loc hled ((hown.plain i hi loc hled).free hdir)
  obtain rfl : i = k := hown.apart i hi k hlast.lt loc hled hlast.led
  obtain ⟨_, rfl⟩ := List.getElem?_eq_some_iff.1 hpart
  have hlocate := h.changed.locate_eq_ok_iff.2 (locate_of_outputAt? (outputPath?_eq hname i) hled)
  rw [List.getElem_map, List.getElem_map, List.getElem_range, read_of_fileAt hlocate hheld]

/-! ## Outputs without links -/

/-- Without links an output leads to its place. -/
theorem eq_place_of_outputAt? (hlinks : fs.LinkFree) {i : Nat} {loc : Location}
    (hled : outputAt? fs path i = some loc) :
    ∃ name, Path.fileName? path = some name ∧
      loc = fs.place (encode (partPath ((Path.parent? path).getD ".") name i)) := by
  obtain ⟨output, houtput, -⟩ := Option.bind_eq_some_iff.1 hled
  obtain ⟨name, hname, rfl⟩ := Option.map_eq_some_iff.1 houtput
  have hlocate := locate_of_outputAt? houtput hled
  exact ⟨name, hname, ((locate_eq_ok_iff hlinks).1 hlocate).2⟩

/-- Without links no output leads to the source. -/
theorem leavesSource_of_linkFree (hlinks : fs.LinkFree) {node : Node}
    (hsource : fs.find (encode path) .follow = .ok (source, node)) (parts : Nat) :
    LeavesSource fs path source parts := by
  intro i _ hled
  obtain ⟨-, rfl, -⟩ := (find_eq_ok_iff hlinks).1 hsource
  obtain ⟨name, hname, hplace⟩ := eq_place_of_outputAt? hlinks hled
  exact place_ne_place_partPath hname _ i hplace

/-- Without links each output leads to a location of its own. -/
theorem outputAt?_injective (hlinks : fs.LinkFree) {i j : Nat} {loc : Location}
    (hi : outputAt? fs path i = some loc) (hj : outputAt? fs path j = some loc) : i = j := by
  obtain ⟨name, hname, rfl⟩ := eq_place_of_outputAt? hlinks hi
  obtain ⟨name', hname', hplace⟩ := eq_place_of_outputAt? hlinks hj
  obtain rfl := Option.some.inj (hname.symm.trans hname')
  exact place_partPath_injective (Path.isName_of_fileName? hname) hplace

/-- Without links and devices each output leads to a file of its own. -/
theorem ownOutputs_of_linkFree (hlinks : fs.LinkFree) {parts : Nat}
    (hdevice : ∀ i < parts, ∀ output, outputPath? path i = some output →
      fs.DeviceFree (encode output)) : OwnOutputs fs path parts where
  plain i hi loc hled node hnode := by
    obtain ⟨name, hname, rfl⟩ := eq_place_of_outputAt? hlinks hled
    cases node with
    | file mode content => exact .inl rfl
    | directory mode => exact .inr rfl
    | link target => exact absurd hnode (hlinks _ target)
    | device device => exact absurd hnode (hdevice i hi _ (outputPath?_eq hname i) device)
  apart _ _ _ _ _ hi hj := outputAt?_injective hlinks hi hj

end TestRig.Files
