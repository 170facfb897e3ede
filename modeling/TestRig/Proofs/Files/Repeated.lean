/-
  TestRig.Proofs.Files.Repeated

  Random splits of files of one length, into fewer and into more parts.  The generator
  starts from the same seed each time, so fewer parts ask for the first numbers that more
  parts ask for (`requests_take`), and they get what those get (`chunks_take`).  Outputs may
  be symbolic links.  If none leads to its source, the sizes agree; if the first outputs are
  the same in both splits (`SameOutputs`), so do their contents.
-/
import TestRig.Proofs.Files.Interrupted

namespace TestRig.Files

open FileSystem
open Text (encode)

/-! ## Fewer parts -/

/-- Fewer parts ask for the first numbers of bytes that more parts ask for. -/
theorem requests_take (total : Nat) {n m : Nat} (h : n ≤ m) :
    (PartSizing.random.requests total m).take n = PartSizing.random.requests total n := by
  rw [PartSizing.requests, PartSizing.requests, ← List.map_take, Random.drawMany_take _ _ h]

theorem chunks_take (wants : List Nat) (content : Bytes) (n : Nat) :
    (chunks wants content).take n = chunks (wants.take n) content := by
  induction wants generalizing content n with
  | nil => rw [chunks, List.take_nil, List.take_nil, chunks]
  | cons want rest ih =>
    cases n with
    | zero => rw [List.take_zero, List.take_zero, chunks]
    | succ n => rw [chunks, List.take_succ_cons, List.take_succ_cons, chunks, ih]

/-- The lengths of the pieces depend on the length of the content alone. -/
theorem map_length_chunks_congr (wants : List Nat) {content content' : Bytes}
    (h : content.length = content'.length) :
    (chunks wants content).map List.length = (chunks wants content').map List.length := by
  induction wants generalizing content content' with
  | nil => rfl
  | cons want rest ih =>
    have hrest : (content.drop want).length = (content'.drop want).length := by
      rw [List.length_drop, List.length_drop, h]
    rw [chunks, chunks, List.map_cons, List.map_cons, ih hrest, List.length_take, List.length_take,
      h]

/-! ## The same outputs -/

/-- No output behind the first `n` of `m` leads where one of the first `n` leads. -/
def LaterApart (fs : FileSystem) (path : String) (n m : Nat) : Prop :=
  ∀ i < n, ∀ j < m, n ≤ j → ∀ loc, outputAt? fs path i = some loc →
    outputAt? fs path j ≠ some loc

/-- The first `n` outputs of a split are the same in another split into `m` parts. -/
structure SameOutputs (fs₁ fs₂ : FileSystem) (path₁ path₂ : String) (n m : Nat) : Prop where
  /-- They lead to plain locations, or else to the same thing. -/
  alike : ∀ i < n, ∀ loc₁ loc₂, outputAt? fs₁ path₁ i = some loc₁ →
    outputAt? fs₂ path₂ i = some loc₂ →
    fs₁.PlainAt loc₁ ∧ fs₂.PlainAt loc₂ ∨ fs₂.lookup loc₂ = fs₁.lookup loc₁
  /-- The outputs that lead where one of them leads are the same. -/
  shared : ∀ i < n, ∀ loc₁ loc₂, outputAt? fs₁ path₁ i = some loc₁ →
    outputAt? fs₂ path₂ i = some loc₂ →
    ∀ j < m, outputAt? fs₂ path₂ j = some loc₂ ↔ j < n ∧ outputAt? fs₁ path₁ j = some loc₁

variable {fs fs₁ fs₂ after after₁ after₂ : FileSystem} {source : Location}
  {path path₁ path₂ : String} {n m : Nat}

theorem outputAt?_congr (h : SameButFiles fs₁ fs₂) (path : String) (i : Nat) :
    outputAt? fs₂ path i = outputAt? fs₁ path i := by
  simp only [outputAt?, h.leads?_eq]

theorem LeavesSource.congr (h : SameButFiles fs₁ fs₂) (hown : LeavesSource fs₁ path source n) :
    LeavesSource fs₂ path source n := by
  intro i hi
  rw [outputAt?_congr h]
  exact hown i hi

theorem LeavesSource.mono (hnm : n ≤ m) (hown : LeavesSource fs path source m) :
    LeavesSource fs path source n :=
  fun i hi => hown i (Nat.lt_of_lt_of_le hi hnm)

theorem OwnOutputs.laterApart (h : OwnOutputs fs path m) (hnm : n ≤ m) :
    LaterApart fs path n m := by
  intro i hi j hj hnj loc hled hled'
  have hsame : i = j := h.apart i (Nat.lt_of_lt_of_le hi hnm) j hj loc hled hled'
  omega

/-- Without links no two outputs lead to the same location. -/
theorem laterApart_of_linkFree (hlinks : fs.LinkFree) : LaterApart fs path n m := by
  intro i hi j _ hnj loc hled hled'
  have hsame : i = j := outputAt?_injective hlinks hled hled'
  omega

namespace SameOutputs

/-- Outputs that lead to files of their own are the same. -/
theorem of_ownOutputs (h₁ : OwnOutputs fs₁ path₁ n) (h₂ : OwnOutputs fs₂ path₂ m) (hnm : n ≤ m) :
    SameOutputs fs₁ fs₂ path₁ path₂ n m where
  alike i hi loc₁ loc₂ hled₁ hled₂ :=
    .inl ⟨h₁.plain i hi loc₁ hled₁, h₂.plain i (Nat.lt_of_lt_of_le hi hnm) loc₂ hled₂⟩
  shared i hi loc₁ loc₂ hled₁ hled₂ j hj := by
    constructor
    · intro hled
      obtain rfl := h₂.apart i (Nat.lt_of_lt_of_le hi hnm) j hj loc₂ hled₂ hled
      exact ⟨hi, hled₁⟩
    · rintro ⟨hlt, hled⟩
      obtain rfl := h₁.apart i hi j hlt loc₁ hled₁ hled
      exact hled₂

/-- The outputs of one path are the same where file systems differ in files alone, if those behind
the first `n` lead elsewhere. -/
theorem of_sameButFiles (h : SameButFiles fs₁ fs₂) (hapart : LaterApart fs₁ path n m) :
    SameOutputs fs₁ fs₂ path path n m := by
  constructor
  · intro i hi loc loc' hled hled'
    rw [outputAt?_congr h] at hled'
    obtain rfl : loc = loc' := Option.some.inj (hled.symm.trans hled')
    exact (h.file loc).symm.imp_left fun ⟨hfree, hfree'⟩ => ⟨hfree.plainAt, hfree'.plainAt⟩
  · intro i hi loc loc' hled hled' j hj
    rw [outputAt?_congr h] at hled' ⊢
    obtain rfl : loc = loc' := Option.some.inj (hled.symm.trans hled')
    refine ⟨fun hother => ⟨?_, hother⟩, fun hother => hother.2⟩
    by_contra hlater
    exact hapart i hi j hj (Nat.le_of_not_lt hlater) loc hled hother

/-- Outputs that are the same hold the same, if the parts are. -/
theorem read_eq (h : SameOutputs fs₁ fs₂ path₁ path₂ n m) {contents : List Bytes}
    (hcount : contents.length = m) (hnm : n ≤ m)
    (h₁ : Landed (outputAt? fs₁ path₁) fs₁ after₁ (contents.take n))
    (h₂ : Landed (outputAt? fs₂ path₂) fs₂ after₂ contents) {i : Nat} (hi : i < n)
    {output₁ output₂ : String} (houtput₁ : outputPath? path₁ i = some output₁)
    (houtput₂ : outputPath? path₂ i = some output₂) :
    after₁.read (encode output₁) = after₂.read (encode output₂) := by
  have hcount₁ : (contents.take n).length = n := by
    rw [List.length_take, hcount, Nat.min_eq_left hnm]
  obtain ⟨loc₁, hled₁, hdir₁⟩ := h₁.opened i (by rwa [hcount₁])
  obtain ⟨loc₂, hled₂, hdir₂⟩ := h₂.opened i (by omega)
  have hlocate₁ := h₁.changed.locate_eq_ok_iff.2 (locate_of_outputAt? houtput₁ hled₁)
  have hlocate₂ := h₂.changed.locate_eq_ok_iff.2 (locate_of_outputAt? houtput₂ hled₂)
  -- a location with a device is not refused, but holds no part
  have hcases : fs₁.Free loc₁ ∧ fs₂.Free loc₂ ∨
      ¬ fs₁.Free loc₁ ∧ ¬ fs₂.Free loc₂ ∧ fs₂.lookup loc₂ = fs₁.lookup loc₁ := by
    rcases h.alike i hi loc₁ loc₂ hled₁ hled₂ with ⟨hplain₁, hplain₂⟩ | hnode
    · exact .inl ⟨hplain₁.free hdir₁, hplain₂.free hdir₂⟩
    · have hiff : fs₂.Free loc₂ ↔ fs₁.Free loc₁ := free_congr hnode
      by_cases hfree : fs₁.Free loc₁
      · exact .inl ⟨hfree, hiff.2 hfree⟩
      · exact .inr ⟨hfree, fun h => hfree (hiff.1 h), hnode⟩
  rcases hcases with ⟨hfree₁, hfree₂⟩ | ⟨hfree₁, hfree₂, hnode⟩
  · obtain ⟨k, part, hlast₁, hpart₁, hheld₁⟩ := h₁.holds i (by rwa [hcount₁]) loc₁ hled₁ hfree₁
    obtain ⟨l, other, hlast₂, hpart₂, hheld₂⟩ := h₂.holds i (by omega) loc₂ hled₂ hfree₂
    rw [hcount₁] at hlast₁
    rw [hcount] at hlast₂
    obtain rfl : k = l := hlast₁.eq hlast₂ hnm (h.shared i hi loc₁ loc₂ hled₁ hled₂)
    rw [List.getElem?_take_of_lt hlast₁.lt] at hpart₁
    obtain rfl : part = other := Option.some.inj (hpart₁.symm.trans hpart₂)
    rw [read_of_fileAt hlocate₁ hheld₁, read_of_fileAt hlocate₂ hheld₂]
  · -- what is no file is left as it is
    refine read_congr hlocate₂ hlocate₁ ?_
    rw [h₁.changed.lookup_eq_of_not_free hfree₁, h₂.changed.lookup_eq_of_not_free hfree₂, hnode]

end SameOutputs

/-! ## Random splits -/

/-- A split that succeeds and leaves its source alone. -/
theorem split_eq_ok {node : Node} {parts : Nat} {sizing : PartSizing} {written : List SplitPart}
    (hsource : fs.find (encode path) .follow = .ok (source, node)) (hparts : 1 ≤ parts)
    (hown : LeavesSource fs path source parts)
    (hrun : split fs path parts sizing = (.ok written, after)) :
    let contents := chunks (sizing.requests node.size parts) (fs.contentAt source)
    ∃ name, Path.fileName? path = some name ∧
      written = partsOf ((Path.parent? path).getD ".") name 0 contents ∧
      Landed (outputAt? fs path) fs after contents := by
  rw [split_eq_splitAsking hsource (by omega)] at hrun
  refine splitAsking_landed hsource ?_ ?_ hrun
  · rwa [length_requests sizing node.size hparts]
  · exact finite_of_mem_requests sizing (find_eq_ok_iff_locate.1 hsource).2 hparts

/-- Random splits are reproducible and stable under the number of parts.  Of two sources of one
length the first is split into `n` parts and the second into `m`, no fewer, and both splits succeed.
If no output leads to the source of its split, the sizes of the first split are the first `n` sizes
of the second.  If the sources have the same content too, so have the first `n` outputs: for one
path, in file systems that differ in files alone, when no output behind them leads where one of them
leads; and for any two paths when each output leads to a file of its own.  Without links no output
leads to the source, and no two outputs lead to the same location. -/
theorem split_random_stable {source₁ source₂ : Location} {node₁ node₂ : Node}
    {written₁ written₂ : List SplitPart}
    (hsource₁ : fs₁.find (encode path₁) .follow = .ok (source₁, node₁))
    (hsource₂ : fs₂.find (encode path₂) .follow = .ok (source₂, node₂))
    (hsize : node₁.size = node₂.size)
    (hlength : (fs₁.contentAt source₁).length = (fs₂.contentAt source₂).length)
    (hn : 1 ≤ n) (hnm : n ≤ m)
    (hrun₁ : split fs₁ path₁ n .random = (.ok written₁, after₁))
    (hrun₂ : split fs₂ path₂ m .random = (.ok written₂, after₂)) :
    (LeavesSource fs₁ path₁ source₁ n → LeavesSource fs₂ path₂ source₂ m →
      written₁.length = n ∧ written₂.length = m ∧
      written₁.map SplitPart.size = (written₂.map SplitPart.size).take n ∧
      (fs₁.contentAt source₁ = fs₂.contentAt source₂ →
        path₁ = path₂ ∧ SameButFiles fs₁ fs₂ ∧ LaterApart fs₁ path₁ n m ∨
          OwnOutputs fs₁ path₁ n ∧ OwnOutputs fs₂ path₂ m →
        written₁.map (fun part => after₁.read (encode part.output)) =
          (written₂.map fun part => after₂.read (encode part.output)).take n)) ∧
    (fs₁.LinkFree → LeavesSource fs₁ path₁ source₁ n ∧ LaterApart fs₁ path₁ n m) ∧
    (fs₂.LinkFree → LeavesSource fs₂ path₂ source₂ m) := by
  refine ⟨fun hown₁ hown₂ => ?_, fun hlinks => ⟨leavesSource_of_linkFree hlinks hsource₁ n,
    laterApart_of_linkFree hlinks⟩, fun hlinks => leavesSource_of_linkFree hlinks hsource₂ m⟩
  have hm : 1 ≤ m := Nat.le_trans hn hnm
  obtain ⟨name₁, hname₁, rfl, hlanded₁⟩ := split_eq_ok hsource₁ hn hown₁ hrun₁
  obtain ⟨name₂, hname₂, rfl, hlanded₂⟩ := split_eq_ok hsource₂ hm hown₂ hrun₂
  -- both contents are cut by the same requests, one by fewer of them
  rw [hsize] at hlanded₁ ⊢
  have hrequests := requests_take node₂.size hnm
  have hcount₁ : (chunks (PartSizing.random.requests node₂.size n) (fs₁.contentAt source₁)).length =
      n := by rw [length_chunks, length_requests .random _ hn]
  have hcount₂ : (chunks (PartSizing.random.requests node₂.size m) (fs₂.contentAt source₂)).length =
      m := by rw [length_chunks, length_requests .random _ hm]
  refine ⟨?_, ?_, ?_, fun hcontent houtputs => ?_⟩
  · rw [length_partsOf, hcount₁]
  · rw [length_partsOf, hcount₂]
  · rw [map_size_eq, map_size_eq, ← List.map_take, ← List.map_take, chunks_take, hrequests,
      map_length_chunks_congr _ hlength]
  · have hsame : SameOutputs fs₁ fs₂ path₁ path₂ n m := by
      rcases houtputs with ⟨rfl, hbut, hapart⟩ | ⟨houtputs₁, houtputs₂⟩
      · exact .of_sameButFiles hbut hapart
      · exact .of_ownOutputs houtputs₁ houtputs₂ hnm
    rw [map_comp_output_partsOf fun output => after₁.read (encode output),
      map_comp_output_partsOf fun output => after₂.read (encode output), hcount₁, hcount₂,
      ← List.map_take, List.take_range, Nat.min_eq_left hnm]
    rw [hcontent, ← hrequests, ← chunks_take] at hlanded₁
    refine List.map_congr_left fun i hi => ?_
    exact hsame.read_eq hcount₂ hnm hlanded₁ hlanded₂ (List.mem_range.1 hi)
      (outputPath?_eq hname₁ i) (outputPath?_eq hname₂ i)

/-- The disk with a linked part when one part was written: the link leads to a file now. -/
def diskWithKeptPart : FileSystem where
  nodes := [([encode "kept"], .file 0o644 (List.replicate 19 7)),
    ([encode "f"], .file 0o644 (List.replicate 20 7)),
    ([encode "f_out0"], .link (encode "kept"))]

theorem find_diskWithKeptPart : diskWithKeptPart.find (encode "f") .follow =
    .ok ([encode "f"], .file 0o644 (List.replicate 20 7)) := by
  simp only [find, locate, walk_eq_walkLinks]
  decide +kernel

theorem split_diskWithLinkedPart :
    split diskWithLinkedPart "f" 1 .random = (.ok [⟨"f_out0", 19⟩], diskWithKeptPart) := by
  have hdir : (Path.parent? "f").getD "." = "" := by decide
  rw [split_eq find_diskWithLinkedPart (by decide : Path.fileName? "f" = some "f") (by decide)]
  simp only [Node.size, List.length_replicate, requests_of_twenty.1, hdir, writeParts, writePart,
    openForWriting, locate, walk_eq_walkLinks]
  rfl

theorem split_diskWithKeptPart :
    (split diskWithKeptPart "f" 2 .random).1 = .ok [⟨"f_out0", 19⟩, ⟨"f_out1", 1⟩] := by
  have hdir : (Path.parent? "f").getD "." = "" := by decide
  rw [split_eq find_diskWithKeptPart (by decide : Path.fileName? "f" = some "f") (by decide)]
  simp only [Node.size, List.length_replicate, requests_of_twenty.2, hdir, writeParts, writePart,
    openForWriting, locate, walk_eq_walkLinks]
  decide +kernel

/-- The disks differ in what the split has written. -/
theorem sameButFiles_diskWithKeptPart : SameButFiles diskWithLinkedPart diskWithKeptPart := by
  obtain ⟨-, -, -, hlanded⟩ := split_eq_ok find_diskWithLinkedPart (by decide)
    (leavesSource_diskWithLinkedPart.mono (by decide)) split_diskWithLinkedPart
  exact hlanded.changed.sameButFiles

theorem split_random_stable_linked_part :
    let first := split diskWithLinkedPart "f" 1 .random
    let second := split first.2 "f" 2 .random
    first.1 = .ok [⟨"f_out0", 19⟩] ∧ second.1 = .ok [⟨"f_out0", 19⟩, ⟨"f_out1", 1⟩] ∧
      second.2.read (encode "f_out0") = first.2.read (encode "f_out0") := by
  have hown₂ : LeavesSource diskWithKeptPart "f" [encode "f"] 2 :=
    leavesSource_diskWithLinkedPart.congr sameButFiles_diskWithKeptPart
  obtain ⟨-, -, -, hreads⟩ := (split_random_stable find_diskWithLinkedPart find_diskWithKeptPart rfl
    rfl (by decide) (show 1 ≤ 2 by decide) split_diskWithLinkedPart
    (Prod.ext split_diskWithKeptPart rfl)).1
    (leavesSource_diskWithLinkedPart.mono (by decide)) hown₂
  have hread := hreads rfl (.inl ⟨rfl, sameButFiles_diskWithKeptPart,
    ownOutputs_diskWithLinkedPart.laterApart (by decide)⟩)
  intro first second
  have hfirst : first = (.ok [⟨"f_out0", 19⟩], diskWithKeptPart) := split_diskWithLinkedPart
  have hsecond : second = split diskWithKeptPart "f" 2 .random := by simp only [second, hfirst]
  rw [hsecond, hfirst]
  exact ⟨rfl, split_diskWithKeptPart, (List.cons.inj hread).1.symm⟩

/-- Two files of ten bytes.  The first part of the one is a link to it, and the second part of the
other one is a link to its first part. -/
def diskWithCrossedLinks : FileSystem where
  nodes := [([encode "f"], .file 0o644 [0, 1, 2, 3, 4, 5, 6, 7, 8, 9]),
    ([encode "g"], .file 0o644 [9, 8, 7, 6, 5, 4, 3, 2, 1, 0]),
    ([encode "f_out0"], .link (encode "f")), ([encode "g_out1"], .link (encode "g_out0"))]

/-- The part that is a link to its file empties it before it is read, and the part that is a link to
another part takes the place of its content. -/
theorem linked_outputs_disagree :
    let one := split diskWithCrossedLinks "g" 1 .random
    let two := split diskWithCrossedLinks "g" 2 .random
    diskWithCrossedLinks.size (encode "f") = .ok 10 ∧
      diskWithCrossedLinks.size (encode "g") = .ok 10 ∧
      (split diskWithCrossedLinks "f" 1 .random).1 = .ok [⟨"f_out0", 0⟩] ∧
      one.1 = .ok [⟨"g_out0", 10⟩] ∧ two.1 = .ok [⟨"g_out0", 10⟩, ⟨"g_out1", 0⟩] ∧
      one.2.read (encode "g_out0") = .ok [9, 8, 7, 6, 5, 4, 3, 2, 1, 0] ∧
      two.2.read (encode "g_out0") = .ok [] := by
  have htwo : PartSizing.random.requests 10 2 = [10, 9] := by decide +kernel
  have hone : PartSizing.random.requests 10 1 = [10] := by
    rw [← requests_take 10 (Nat.le_succ 1), htwo, List.take_succ_cons, List.take_zero]
  have hf : diskWithCrossedLinks.find (encode "f") .follow =
      .ok ([encode "f"], .file 0o644 [0, 1, 2, 3, 4, 5, 6, 7, 8, 9]) := by
    simp only [find, locate, walk_eq_walkLinks]
    decide +kernel
  have hg : diskWithCrossedLinks.find (encode "g") .follow =
      .ok ([encode "g"], .file 0o644 [9, 8, 7, 6, 5, 4, 3, 2, 1, 0]) := by
    simp only [find, locate, walk_eq_walkLinks]
    decide +kernel
  have hnamef : Path.fileName? "f" = some "f" := by decide
  have hnameg : Path.fileName? "g" = some "g" := by decide
  have hdirf : (Path.parent? "f").getD "." = "" := by decide
  have hdirg : (Path.parent? "g").getD "." = "" := by decide
  intro one two
  simp only [one, two]
  rw [split_eq hf hnamef (by decide), split_eq hg hnameg (by decide),
    split_eq hg hnameg (by decide)]
  simp only [Node.size, List.length_cons, List.length_nil, Nat.reduceAdd, hone, htwo, hdirf, hdirg,
    writeParts, writePart, FileSystem.size, FileSystem.read, find, openForWriting, locate,
    walk_eq_walkLinks]
  decide +kernel

end TestRig.Files
