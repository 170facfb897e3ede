/-
  TestRig.Proofs.Files.RandomSplit

  Splitting a file into parts that ask for random numbers of bytes.  Whatever the parts
  ask for, each gets the next bytes as long as there are any (`truncated_chunks`), unless
  an output leads to the file itself, which is then emptied before it is read.  The
  requests that are drawn lie between a tenth of the file and the whole of it
  (`asksWithin_requests`), so eleven parts exhaust a file of ninety bytes or more.
-/
import Mathlib.Algebra.Order.BigOperators.Group.List
import Mathlib.Algebra.Order.Group.Nat
import TestRig.Proofs.Files.Landing
import TestRig.Proofs.Random.Range

namespace TestRig.Files

open FileSystem
open Text (encode)

/-! ## Requests -/

/-- As many requests as there are parts, each between a tenth of the total and the total. -/
structure AsksWithin (total parts : Nat) (requests : List Nat) : Prop where
  count : requests.length = parts
  lower : ∀ want ∈ requests, total / 10 ≤ want
  upper : ∀ want ∈ requests, want ≤ total

/-- The requests of random parts, drawn from any source of words. -/
def drawnRequests {σ : Type} [Random.WordSource σ] (total parts : Nat) (g : σ) : List Nat :=
  (Random.drawMany (UInt64.ofNat (total / 10)) (UInt64.ofNat total) parts g).map UInt64.toNat

/-- From whichever words they are drawn, the requests lie within the bounds. -/
theorem asksWithin_drawnRequests {σ : Type} [Random.WordSource σ] {total : Nat}
    (htotal : total < 2 ^ 64) (parts : Nat) (g : σ) :
    AsksWithin total parts (drawnRequests total parts g) := by
  have htenth : (UInt64.ofNat (total / 10)).toNat = total / 10 := by
    rw [UInt64.toNat_ofNat']
    omega
  have hwhole : (UInt64.ofNat total).toNat = total := by
    rw [UInt64.toNat_ofNat']
    omega
  have hle : UInt64.ofNat (total / 10) ≤ UInt64.ofNat total := by
    rw [UInt64.le_iff_toNat_le, htenth, hwhole]
    exact Nat.div_le_self total 10
  have hbounds : ∀ want ∈ drawnRequests total parts g, total / 10 ≤ want ∧ want ≤ total := by
    intro want hwant
    obtain ⟨n, hn, rfl⟩ := List.mem_map.1 hwant
    obtain ⟨hlow, hhigh⟩ := Random.within_of_mem_drawMany hle hn
    rw [UInt64.le_iff_toNat_le] at hlow hhigh
    rw [htenth] at hlow
    rw [hwhole] at hhigh
    exact ⟨hlow, hhigh⟩
  have hcount : (drawnRequests total parts g).length = parts := by
    rw [drawnRequests, List.length_map, Random.length_drawMany]
  exact ⟨hcount, fun want h => (hbounds want h).1, fun want h => (hbounds want h).2⟩

/-- So do those of the seeded generator. -/
theorem asksWithin_requests {total : Nat} (htotal : total < 2 ^ 64) (parts : Nat) :
    AsksWithin total parts (PartSizing.random.requests total parts) :=
  asksWithin_drawnRequests htotal parts (Random.Generator.ofSeed splitSeed)

/-- Eleven parts ask for all of a file of ninety bytes or more: nine tenths of it leave at most nine
bytes, and a tenth has as many. -/
theorem AsksWithin.le_sum {total parts : Nat} {requests : List Nat}
    (h : AsksWithin total parts requests) (htotal : 90 ≤ total) (hparts : 11 ≤ parts) :
    total ≤ requests.sum := by
  have hsum : requests.length • (total / 10) ≤ requests.sum :=
    List.card_nsmul_le_sum requests (total / 10) h.lower
  rw [Nat.nsmul_eq_mul] at hsum
  have hmany : 11 * (total / 10) ≤ requests.length * (total / 10) :=
    Nat.mul_le_mul_right _ (by rw [h.count]; exact hparts)
  omega

/-! ## The truncate rule -/

/-- How many bytes the parts in front of part `i` have taken. -/
def taken (content : Bytes) (requests : List Nat) (i : Nat) : Nat :=
  min content.length (requests.take i).sum

/-- The parts hold the content from its beginning on.  Each gets the bytes that it asks for, or what
is left of them. -/
structure Truncated (content : Bytes) (requests : List Nat) (parts : List Bytes) : Prop where
  count : parts.length = requests.length
  part : ∀ i want, requests[i]? = some want → ∃ part, parts[i]? = some part ∧
    part.length = min want (content.length - taken content requests i) ∧
    part = (content.drop (taken content requests i)).take part.length
  joined : parts.flatten = content.take (min content.length requests.sum)

theorem getElem?_chunks (requests : List Nat) (content : Bytes) (i : Nat) :
    (chunks requests content)[i]? =
      requests[i]?.map fun want => (content.drop (requests.take i).sum).take want := by
  induction requests generalizing content i with
  | nil => rfl
  | cons want rest ih =>
    cases i with
    | zero => rfl
    | succ i =>
      rw [chunks, List.getElem?_cons_succ, List.getElem?_cons_succ, ih, List.take_succ_cons,
        List.sum_cons]
      simp only [List.drop_drop]

theorem drop_min_length (content : Bytes) (n : Nat) :
    content.drop (min content.length n) = content.drop n := by
  rcases Nat.le_total content.length n with hle | hle
  · rw [Nat.min_eq_left hle, List.drop_length, List.drop_eq_nil_of_le hle]
  · rw [Nat.min_eq_right hle]

/-- A content is cut by the truncate rule, whatever is asked for. -/
theorem truncated_chunks (requests : List Nat) (content : Bytes) :
    Truncated content requests (chunks requests content) where
  count := length_chunks requests content
  part i want hwant := by
    refine ⟨_, by rw [getElem?_chunks, hwant]; rfl, ?_, ?_⟩
    · rw [List.length_take, ← drop_min_length, List.length_drop]
      rfl
    · rw [taken, drop_min_length, List.length_take, ← List.take_take, List.take_length]
  joined := by
    rw [flatten_chunks]
    rcases Nat.le_total content.length requests.sum with hle | hle
    · rw [Nat.min_eq_left hle, List.take_length, List.take_of_length_le hle]
    · rw [Nat.min_eq_right hle]

namespace Truncated

variable {content : Bytes} {requests : List Nat} {parts : List Bytes}

theorem length_part (h : Truncated content requests parts) {i want : Nat}
    (hwant : requests[i]? = some want) :
    (parts.map List.length)[i]? = some (min want (content.length - taken content requests i)) := by
  obtain ⟨part, hpart, hlength, -⟩ := h.part i want hwant
  rw [List.getElem?_map, hpart, ← hlength]
  rfl

theorem sum_length_le (h : Truncated content requests parts) :
    (parts.map List.length).sum ≤ content.length := by
  rw [← List.length_flatten, h.joined, List.length_take]
  omega

/-- The first part gets what it asks for, if the content is long enough. -/
theorem head?_length (h : Truncated content requests parts) {want : Nat}
    (hwant : requests.head? = some want) (hle : want ≤ content.length) :
    (parts.map List.length).head? = some want := by
  rw [List.head?_eq_getElem?] at hwant ⊢
  rw [h.length_part hwant, taken, List.take_zero, List.sum_nil, Nat.min_zero, Nat.sub_zero,
    Nat.min_eq_left hle]

/-- The parts behind one that got less than it asked for are empty. -/
theorem empty_behind_short (h : Truncated content requests parts) {i j want size : Nat}
    (hij : i < j) (hj : j < requests.length) (hwant : requests[i]? = some want)
    (hsize : (parts.map List.length)[i]? = some size) (hshort : size < want) :
    (parts.map List.length)[j]? = some 0 := by
  obtain ⟨hi, rfl⟩ := List.getElem?_eq_some_iff.1 hwant
  obtain rfl := Option.some.inj ((h.length_part hwant).symm.trans hsize)
  -- the requests up to the short part exceed the content
  have hsum : (requests.take (i + 1)).sum ≤ (requests.take j).sum :=
    (List.take_prefix_take_left hij).sublist.sum_le_sum fun _ _ => Nat.zero_le _
  rw [List.take_add_one, List.getElem?_eq_getElem hi, List.sum_append, Option.toList_some,
    List.sum_singleton] at hsum
  rw [h.length_part (List.getElem?_eq_getElem hj)]
  rw [taken] at hshort ⊢
  exact congrArg some (by omega)

end Truncated

/-! ## Splitting -/

/-- Splits a file into parts that ask for given numbers of bytes. -/
def splitAsking (fs : FileSystem) (path : String) (requests : List Nat) :
    Except FileError (List SplitPart) × FileSystem :=
  match Path.fileName? path, onPath path (fs.locate (encode path) .follow) with
  | none, _ => (.error (.invalidArgument (path ++ " has no file name")), fs)
  | some name, .ok source =>
    writeParts source ((Path.parent? path).getD ".") name 0 0 requests fs
  | some _, .error e => (.error e, fs)

variable {fs fs' : FileSystem} {source : Location} {node : Node} {content : Bytes} {path : String}
  {mode : Nat}

/-- With the parts of what is there their writing begins. -/
theorem splitAsking_eq_writeParts (hsource : fs.find (encode path) .follow = .ok (source, node))
    {name : String} (hname : Path.fileName? path = some name) (requests : List Nat) :
    splitAsking fs path requests =
      writeParts source ((Path.parent? path).getD ".") name 0 0 requests fs := by
  rw [splitAsking, hname, (find_eq_ok_iff_locate.1 hsource).1]
  rfl

/-- Splitting a file asks for the numbers of bytes that the sizing says. -/
theorem split_eq_splitAsking (hsource : fs.find (encode path) .follow = .ok (source, node))
    {parts : Nat} (hparts : parts ≠ 0) (sizing : PartSizing) :
    split fs path parts sizing = splitAsking fs path (sizing.requests node.size parts) := by
  cases hname : Path.fileName? path with
  | none => rw [split, if_neg hparts, hname, splitAsking, hname]
  | some name => rw [split_eq hsource hname hparts, splitAsking_eq_writeParts hsource hname]

theorem map_some_output_partsOf {name : String} (hname : Path.fileName? path = some name)
    (contents : List Bytes) :
    (partsOf ((Path.parent? path).getD ".") name 0 contents).map (fun part => some part.output) =
      (List.range contents.length).map (outputPath? path) := by
  refine (map_comp_output_partsOf some _ name contents).trans ?_
  exact List.map_congr_left fun i _ => (outputPath?_eq hname i).symm

/-- Whatever the parts ask for, a file is split exactly when all parts can be opened. -/
theorem exists_splitAsking_iff
    (hsource : fs.find (encode path) .follow = .ok (source, .file mode content))
    {requests : List Nat} (hsome : requests ≠ []) :
    (∃ written, (splitAsking fs path requests).1 = .ok written) ↔
      ∀ i < requests.length, ∃ output opened, outputPath? path i = some output ∧
        fs.openForWriting (encode output) true 0o666 = .ok opened := by
  cases hname : Path.fileName? path with
  | none =>
    refine iff_of_false ?_ fun hopen => ?_
    · rintro ⟨written, hrun⟩
      simp [splitAsking, hname] at hrun
    · obtain ⟨output, -, houtput, -⟩ := hopen 0 (List.length_pos_iff.2 hsome)
      simp [outputPath?, hname] at houtput
  | some name =>
    have hfile : (fs.fileAt source).isSome = true := by
      rw [fileAt_eq_some_iff.2 ⟨mode, (find_eq_ok_iff_locate.1 hsource).2⟩]
      rfl
    rw [splitAsking_eq_writeParts hsource hname,
      exists_writeParts_iff (Path.isName_of_fileName? hname) hfile]
    simp only [outputPath?_eq hname, Nat.zero_add, Option.some.injEq, exists_and_left,
      exists_eq_left']

/-- A split that succeeds and leaves its source alone. -/
theorem splitAsking_landed (hsource : fs.find (encode path) .follow = .ok (source, node))
    {requests : List Nat} (hown : LeavesSource fs path source requests.length)
    (hfinite : ∀ want ∈ requests, Finite fs source want) {written : List SplitPart}
    (hrun : splitAsking fs path requests = (.ok written, fs')) :
    let contents := chunks requests (fs.contentAt source)
    ∃ name, Path.fileName? path = some name ∧
      written = partsOf ((Path.parent? path).getD ".") name 0 contents ∧
      Landed (outputAt? fs path) fs fs' contents := by
  cases hname : Path.fileName? path with
  | none => simp [splitAsking, hname] at hrun
  | some name =>
    rw [splitAsking_eq_writeParts hsource hname] at hrun
    exact ⟨name, rfl, writeParts_landed hname hown hfinite hrun⟩

/-- Random parts obey the truncate rule.  The generator makes one request for each part, between a
tenth of the file and the whole of it.  For these requests, and for any others within the same
bounds, the split succeeds exactly when every part can be opened.  If no output leads to the file
itself, the parts then stand in order at their paths, and the size of each is the number of bytes
that it asks for, or of those that are left.  Put together these bytes are the beginning of the
file, as long as all requests together.  The first part has at least a tenth of the file, the parts
behind a short one are empty, and eleven parts lose nothing of ninety bytes or more.  Outputs that
lead to files of their own hold these bytes.  Without links no output leads to the file, and each
one that is no device leads to a file of its own. -/
theorem split_random_truncates
    (hsource : fs.find (encode path) .follow = .ok (source, .file mode content))
    (htotal : content.length < 2 ^ 64) {parts : Nat} (hparts : 1 ≤ parts) :
    split fs path parts .random =
      splitAsking fs path (PartSizing.random.requests content.length parts) ∧
    AsksWithin content.length parts (PartSizing.random.requests content.length parts) ∧
    (∀ requests, AsksWithin content.length parts requests →
      ((∃ written, (splitAsking fs path requests).1 = .ok written) ↔
        ∀ i < parts, ∃ output opened, outputPath? path i = some output ∧
          fs.openForWriting (encode output) true 0o666 = .ok opened) ∧
      ∀ written fs', splitAsking fs path requests = (.ok written, fs') →
        LeavesSource fs path source parts →
        written.map (fun part => some part.output) =
          (List.range parts).map (outputPath? path) ∧
        ∃ contents sizes,
          Truncated content requests contents ∧
          written.map (fun part => part.size.toNat) = sizes ∧
          sizes = contents.map List.length ∧
          sizes.sum ≤ content.length ∧
          (∃ first, sizes.head? = some first ∧ content.length / 10 ≤ first) ∧
          (∀ i j want size, i < j → requests[i]? = some want → sizes[i]? = some size →
            size < want → j < parts → sizes[j]? = some 0) ∧
          (90 ≤ content.length → 11 ≤ parts → contents.flatten = content) ∧
          (OwnOutputs fs path parts →
            written.map (fun part => fs'.read (encode part.output)) = contents.map .ok)) ∧
    (fs.LinkFree → LeavesSource fs path source parts ∧
      ((∀ i < parts, ∀ output, outputPath? path i = some output →
        fs.DeviceFree (encode output)) → OwnOutputs fs path parts)) := by
  refine ⟨split_eq_splitAsking hsource (by omega) .random, asksWithin_requests htotal parts,
    fun requests hasks => ?_, fun hlinks =>
    ⟨leavesSource_of_linkFree hlinks hsource parts, ownOutputs_of_linkFree hlinks⟩⟩
  have hcount := hasks.count
  have hsome : requests ≠ [] := by
    rintro rfl
    rw [List.length_nil] at hcount
    omega
  have hnode := (find_eq_ok_iff_locate.1 hsource).2
  have hcontent : fs.contentAt source = content := by rw [contentAt, hnode]
  have hfinite : ∀ want ∈ requests, Finite fs source want := fun _ _ => .inr (by simp [hnode])
  have hiff := exists_splitAsking_iff hsource hsome
  rw [hcount] at hiff
  refine ⟨hiff, fun written fs' hrun hown => ?_⟩
  obtain ⟨name, hname, rfl, hlanded⟩ :=
    splitAsking_landed hsource (by rwa [hcount]) hfinite hrun
  rw [hcontent] at hlanded ⊢
  have hparts : (chunks requests content).length = parts := by rw [length_chunks, hcount]
  have htruncated := truncated_chunks requests content
  have hshort : ∀ part ∈ chunks requests content, part.length < 2 ^ 64 := fun part hpart =>
    Nat.lt_of_le_of_lt (length_le_of_mem_chunks hpart) htotal
  refine ⟨by rw [map_some_output_partsOf hname, hparts], _, _, htruncated,
    map_size_partsOf _ _ 0 hshort, rfl, htruncated.sum_length_le, ?_, ?_, ?_, fun hapart => ?_⟩
  · have hwant : requests.head? = some (requests.head hsome) := List.head?_eq_some_head hsome
    have hmem : requests.head hsome ∈ requests := List.head_mem hsome
    exact ⟨_, htruncated.head?_length hwant (hasks.upper _ hmem), hasks.lower _ hmem⟩
  · intro i j want size hij hwant hsize hless hj
    exact htruncated.empty_behind_short hij (by rwa [hcount]) hwant hsize hless
  · intro hlong hmany
    rw [htruncated.joined, Nat.min_eq_left (hasks.le_sum hlong hmany), List.take_length]
  · exact hlanded.map_read hname (by rwa [hparts])

/-- What one part asks for of twenty bytes, and what two parts do. -/
theorem requests_of_twenty : PartSizing.random.requests 20 1 = [19] ∧
    PartSizing.random.requests 20 2 = [19, 7] := by
  decide +kernel

/-- A file of twenty bytes beside which the first part is a link to where nothing stands yet. -/
def diskWithLinkedPart : FileSystem where
  nodes := [([encode "f"], .file 0o644 (List.replicate 20 7)),
    ([encode "f_out0"], .link (encode "kept"))]

theorem find_diskWithLinkedPart : diskWithLinkedPart.find (encode "f") .follow =
    .ok ([encode "f"], .file 0o644 (List.replicate 20 7)) := by
  simp only [find, locate, walk_eq_walkLinks]
  decide +kernel

theorem outputAt?_diskWithLinkedPart {i : Nat} (hi : i < 2) {loc : Location}
    (hled : outputAt? diskWithLinkedPart "f" i = some loc) :
    i = 0 ∧ loc = [encode "kept"] ∨ i = 1 ∧ loc = [encode "f_out1"] := by
  have hfirst : outputAt? diskWithLinkedPart "f" 0 = some [encode "kept"] := by
    simp only [outputAt?, leads?, locate, walk_eq_walkLinks]
    decide +kernel
  have hsecond : outputAt? diskWithLinkedPart "f" 1 = some [encode "f_out1"] := by
    simp only [outputAt?, leads?, locate, walk_eq_walkLinks]
    decide +kernel
  obtain rfl | rfl : i = 0 ∨ i = 1 := by omega
  · exact .inl ⟨rfl, Option.some.inj (hled.symm.trans hfirst)⟩
  · exact .inr ⟨rfl, Option.some.inj (hled.symm.trans hsecond)⟩

theorem leavesSource_diskWithLinkedPart :
    LeavesSource diskWithLinkedPart "f" [encode "f"] 2 := by
  intro i hi hled
  rcases outputAt?_diskWithLinkedPart hi hled with ⟨-, heq⟩ | ⟨-, heq⟩
  · exact absurd heq (by decide)
  · exact absurd heq (by decide)

theorem ownOutputs_diskWithLinkedPart : OwnOutputs diskWithLinkedPart "f" 2 where
  plain i hi loc hled node hnode := by
    have hkept : diskWithLinkedPart.lookup [encode "kept"] = none := by decide +kernel
    have hsecond : diskWithLinkedPart.lookup [encode "f_out1"] = none := by decide +kernel
    rcases outputAt?_diskWithLinkedPart hi hled with ⟨-, rfl⟩ | ⟨-, rfl⟩
    · exact absurd hnode (by simp [hkept])
    · exact absurd hnode (by simp [hsecond])
  apart i hi j hj loc hled hled' := by
    rcases outputAt?_diskWithLinkedPart hi hled with ⟨rfl, rfl⟩ | ⟨rfl, rfl⟩
    · rcases outputAt?_diskWithLinkedPart hj hled' with ⟨rfl, -⟩ | ⟨-, heq⟩
      · rfl
      · exact absurd heq (by decide)
    · rcases outputAt?_diskWithLinkedPart hj hled' with ⟨-, heq⟩ | ⟨rfl, -⟩
      · exact absurd heq (by decide)
      · rfl

/-- The second part asks for seven bytes and gets the one that is left. -/
theorem split_random_truncates_linked_part :
    ∃ written fs', split diskWithLinkedPart "f" 2 .random = (.ok written, fs') ∧
      ∃ contents : List Bytes,
        written.map (fun part => fs'.read (encode part.output)) = contents.map .ok ∧
        contents.flatten = List.replicate 20 7 ∧ (contents.map List.length)[1]? = some 1 := by
  have hopen : ∀ i < 2, ∃ output opened, outputPath? "f" i = some output ∧
      diskWithLinkedPart.openForWriting (encode output) true 0o666 = .ok opened := by
    intro i hi
    simp only [openForWriting, locate, walk_eq_walkLinks]
    obtain rfl | rfl : i = 0 ∨ i = 1 := by omega
    · exact ⟨"f_out0", _, by decide +kernel, rfl⟩
    · exact ⟨"f_out1", _, by decide +kernel, rfl⟩
  obtain ⟨hsplit, hasks, hany, -⟩ :=
    split_random_truncates find_diskWithLinkedPart (by simp) (show 1 ≤ 2 by decide)
  rw [List.length_replicate, requests_of_twenty.2] at hsplit hasks
  obtain ⟨hiff, hwritten⟩ := hany [19, 7] (by rwa [List.length_replicate])
  obtain ⟨written, hrun⟩ := hiff.2 hopen
  obtain ⟨-, contents, sizes, htruncated, -, -, -, -, -, -, hread⟩ :=
    hwritten written _ (Prod.ext hrun rfl) leavesSource_diskWithLinkedPart
  refine ⟨written, _, by rw [hsplit]; exact Prod.ext hrun rfl, contents,
    hread ownOutputs_diskWithLinkedPart, htruncated.joined, ?_⟩
  exact htruncated.length_part (show [19, 7][1]? = some 7 from rfl)

/-- Three files of twenty bytes.  The first part of the first one is a link to it, the second part of
the second one is a link to its first part, and the first part of the third one is a link to the
device that keeps nothing. -/
def diskWithStrayParts : FileSystem where
  nodes := [([encode "f"], .file 0o644 (List.replicate 20 7)),
    ([encode "g"], .file 0o644 (List.replicate 20 7)),
    ([encode "h"], .file 0o644 (List.replicate 20 7)),
    ([encode "dev"], .directory 0o755), ([encode "dev", encode "null"], .device .null),
    ([encode "f_out0"], .link (encode "f")), ([encode "g_out1"], .link (encode "g_out0")),
    ([encode "h_out0"], .link (encode "/dev/null"))]

/-- The part that is a link to its file empties it before it is read, the part that is a link to
another part takes the place of its content, and the part that is a link to the device is gone. -/
theorem stray_parts_break_truncation :
    let shared := split diskWithStrayParts "g" 2 .random
    let lost := split diskWithStrayParts "h" 1 .random
    diskWithStrayParts.size (encode "f") = .ok 20 ∧
      diskWithStrayParts.size (encode "g") = .ok 20 ∧
      diskWithStrayParts.size (encode "h") = .ok 20 ∧
      PartSizing.random.requests 20 1 = [19] ∧ PartSizing.random.requests 20 2 = [19, 7] ∧
      (split diskWithStrayParts "f" 1 .random).1 = .ok [⟨"f_out0", 0⟩] ∧
      shared.1 = .ok [⟨"g_out0", 19⟩, ⟨"g_out1", 1⟩] ∧
      shared.2.read (encode "g_out0") = .ok [7] ∧
      lost.1 = .ok [⟨"h_out0", 19⟩] ∧ lost.2.read (encode "h_out0") = .ok [] := by
  have hf : diskWithStrayParts.find (encode "f") .follow =
      .ok ([encode "f"], .file 0o644 (List.replicate 20 7)) := by
    simp only [find, locate, walk_eq_walkLinks]
    decide +kernel
  have hg : diskWithStrayParts.find (encode "g") .follow =
      .ok ([encode "g"], .file 0o644 (List.replicate 20 7)) := by
    simp only [find, locate, walk_eq_walkLinks]
    decide +kernel
  have hh : diskWithStrayParts.find (encode "h") .follow =
      .ok ([encode "h"], .file 0o644 (List.replicate 20 7)) := by
    simp only [find, locate, walk_eq_walkLinks]
    decide +kernel
  have hnamef : Path.fileName? "f" = some "f" := by decide
  have hnameg : Path.fileName? "g" = some "g" := by decide
  have hnameh : Path.fileName? "h" = some "h" := by decide
  have hdirf : (Path.parent? "f").getD "." = "" := by decide
  have hdirg : (Path.parent? "g").getD "." = "" := by decide
  have hdirh : (Path.parent? "h").getD "." = "" := by decide
  intro shared lost
  simp only [shared, lost]
  rw [split_eq hf hnamef (by decide), split_eq hg hnameg (by decide),
    split_eq hh hnameh (by decide)]
  simp only [Node.size, List.length_replicate, requests_of_twenty.1, requests_of_twenty.2, hdirf,
    hdirg, hdirh, writeParts, writePart, FileSystem.size, FileSystem.read, find, openForWriting,
    locate, walk_eq_walkLinks]
  decide +kernel

end TestRig.Files
