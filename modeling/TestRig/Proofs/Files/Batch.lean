/-
  TestRig.Proofs.Files.Batch

  How a backup or a restore ends.  The runs are described by a relation that names the
  place of the first failure (`Ends`): the files before it are copied, each in the state
  that the copies before it have left, and the files behind it play no part.  The relation
  has an end for every run (`exists_ends`), and each run ends so (`Ends.run_eq`).
-/
import TestRig.Proofs.Files.Backup

namespace TestRig.Files.BackupAction

open FileSystem
open Text (encode)

variable {action : BackupAction} {fs fs' ready : FileSystem} {dir file : String}
  {files before : List String}

/-! ## Copies in turn -/

/-- The files are copied in turn, each in the state that the copies before it have left. -/
inductive Copies (action : BackupAction) (dir : String) :
    FileSystem → List String → FileSystem → Prop where
  | nil (fs : FileSystem) : Copies action dir fs [] fs
  | cons {fs fs₁ fs' : FileSystem} {file source target : String} {files : List String}
      (route : action.route? dir file = some (source, target))
      (copied : fs.copy (encode source) (encode target) = .ok fs₁)
      (rest : Copies action dir fs₁ files fs') : Copies action dir fs (file :: files) fs'

/-- The file cannot be copied: its path has no last name, or the system refuses the copy. -/
inductive Refuses (action : BackupAction) (dir : String) (fs : FileSystem) (file : String) :
    FileError → Prop where
  | nameless (name : Path.fileName? file = none) :
      Refuses action dir fs file (.invalidArgument (file ++ " has no file name"))
  | refused {source target : String} {refusal : IoError}
      (route : action.route? dir file = some (source, target))
      (copy : fs.copy (encode source) (encode target) = .error refusal) :
      Refuses action dir fs file (.ofIo source refusal)

theorem copyOne_of_route {source target : String}
    (hroute : action.route? dir file = some (source, target))
    (hcopy : fs.copy (encode source) (encode target) = .ok fs') :
    action.copyOne fs dir file = .ok (target, fs') := by
  rw [copyOne, hroute]
  simp only [hcopy]
  rfl

theorem Refuses.copyOne_eq {e : FileError} (h : action.Refuses dir fs file e) :
    action.copyOne fs dir file = .error e := by
  cases h with
  | nameless name =>
    rw [copyOne, route?, name]
    rfl
  | refused route copy =>
    rw [copyOne, route]
    simp only [copy]
    rfl

theorem Copies.copyAll_eq (h : action.Copies dir fs files fs') :
    action.copyAll dir files fs =
      (.ok (files.map fun file => (action.routeOf dir file).2), fs') := by
  induction h with
  | nil fs => rfl
  | @cons fs fs₁ fs' file source target files route copied more ih =>
    have htarget : (action.routeOf dir file).2 = target := by
      rw [routeOf, route]
      rfl
    rw [copyAll, copyOne_of_route route copied]
    simp only [ih, List.map_cons, htarget]

theorem Copies.copyAll_refused (h : action.Copies dir fs before fs') {e : FileError}
    (hrefuses : action.Refuses dir fs' file e) (rest : List String) :
    action.copyAll dir (before ++ file :: rest) fs = (.error e, fs') := by
  induction h with
  | nil fs =>
    rw [List.nil_append, copyAll, hrefuses.copyOne_eq]
  | cons route copied more ih =>
    rw [List.cons_append, copyAll, copyOne_of_route route copied]
    simp only [ih hrefuses]

/-- Either all files are copied in turn, or there is a first one that cannot be copied. -/
theorem copies_or_refuses (action : BackupAction) (fs : FileSystem) (dir : String)
    (files : List String) :
    (∃ after, action.Copies dir fs files after) ∨
      ∃ before file rest after e, files = before ++ file :: rest ∧
        action.Copies dir fs before after ∧ action.Refuses dir after file e := by
  induction files generalizing fs with
  | nil => exact .inl ⟨fs, .nil fs⟩
  | cons file files ih =>
    -- the first file may be the one
    have hfirst : ∀ e, action.Refuses dir fs file e →
        ∃ before file' rest after e, file :: files = before ++ file' :: rest ∧
          action.Copies dir fs before after ∧ action.Refuses dir after file' e :=
      fun e he => ⟨[], file, files, fs, e, rfl, .nil fs, he⟩
    cases hroute : action.route? dir file with
    | none => exact .inr (hfirst _ (.nameless (Option.map_eq_none_iff.1 hroute)))
    | some route =>
      obtain ⟨source, target⟩ := route
      cases hcopy : fs.copy (encode source) (encode target) with
      | error refusal => exact .inr (hfirst _ (.refused hroute hcopy))
      | ok fs₁ =>
        obtain ⟨after, hall⟩ | ⟨before, file', rest, after, e, rfl, hcopies, hrefuses⟩ := ih fs₁
        · exact .inl ⟨after, .cons hroute hcopy hall⟩
        · exact .inr ⟨file :: before, file', rest, after, e, rfl, .cons hroute hcopy hcopies,
            hrefuses⟩

/-- Copies in turn change the files at their destinations alone. -/
theorem Copies.filesChanged (hlinks : fs.LinkFree) (h : action.Copies dir fs files fs') :
    FilesChanged (action.IsTarget fs dir files) fs fs' := by
  induction h with
  | nil fs => exact .refl _ fs
  | @cons fs fs₁ fs' file source target files route copied more ih =>
    have hone := filesChanged_copy hlinks copied
    have htarget : (action.placesOf fs dir file).2 = fs.place (encode target) := by
      rw [placesOf_snd, routeOf, route]
      rfl
    have hfirst : FilesChanged (action.IsTarget fs dir (file :: files)) fs fs₁ :=
      hone.mono fun loc hloc => ⟨file, List.mem_cons_self, hloc.trans htarget.symm⟩
    refine hfirst.trans ((ih (hone.linkFree hlinks)).mono ?_)
    -- paths keep their places while files are copied
    rintro loc ⟨other, hother, rfl⟩
    refine ⟨other, List.mem_cons_of_mem _ hother, ?_⟩
    rw [placesOf_snd, placesOf_snd, hone.place_eq]

/-! ## Whole runs -/

/-- The state in which the copies start: that of before, with the backup directory if a backup had
to create it. -/
inductive SetUp : BackupAction → FileSystem → String → FileSystem → Prop where
  | there {fs : FileSystem} {dir : String} (h : fs.pathExists (encode dir) = true) :
      SetUp backup fs dir fs
  | created {fs ready : FileSystem} {dir : String} (h : fs.pathExists (encode dir) = false)
      (made : fs.makeDirectory (encode dir) 0o777 = .ok ready) : SetUp backup fs dir ready
  | found {fs : FileSystem} {dir : String} (h : fs.isDirectory (encode dir) = true) :
      SetUp restore fs dir fs

/-- How a run ends. -/
inductive Ends (fs : FileSystem) (dir : String) (files : List String) :
    BackupAction → Except FileError (List String) → FileSystem → Prop where
  /-- There is no directory to restore from. -/
  | noDirectory (h : fs.isDirectory (encode dir) = false) :
      Ends fs dir files restore (.error (.notFound dir)) fs
  /-- The backup directory is missing and cannot be created. -/
  | notCreated {refusal : IoError} (h : fs.pathExists (encode dir) = false)
      (made : fs.makeDirectory (encode dir) 0o777 = .error refusal) :
      Ends fs dir files backup (.error (.ofIo dir refusal)) fs
  /-- All files are copied. -/
  | finished {action : BackupAction} {ready after : FileSystem} (setUp : action.SetUp fs dir ready)
      (copies : action.Copies dir ready files after) :
      Ends fs dir files action (.ok (files.map fun file => (action.routeOf dir file).2)) after
  /-- A file is not copied, and none behind it. -/
  | stopped {action : BackupAction} {ready after : FileSystem} {before rest : List String}
      {file : String} {e : FileError} (split : files = before ++ file :: rest)
      (setUp : action.SetUp fs dir ready) (copies : action.Copies dir ready before after)
      (refuses : action.Refuses dir after file e) : Ends fs dir files action (.error e) after

theorem SetUp.prepare_eq (h : action.SetUp fs dir ready) : action.prepare fs dir = .ok ready := by
  cases h with
  | there h => simp [prepare, h]
  | created h made => simp [prepare, h, made, onPath, Except.mapError]
  | found h => simp [prepare, h]

theorem SetUp.linkFree (h : action.SetUp fs dir ready) (hlinks : fs.LinkFree) :
    ready.LinkFree := by
  cases h with
  | there h => exact hlinks
  | created h made =>
    obtain ⟨loc, mode, hroot, -, rfl⟩ := makeDirectory_eq_ok made
    exact hlinks.put_directory hroot mode
  | found h => exact hlinks

theorem SetUp.run_eq (h : action.SetUp fs dir ready) (files : List String) :
    action.run fs dir files = action.copyAll dir files ready := by
  rw [run, h.prepare_eq]

theorem Ends.run_eq {result : Except FileError (List String)} {after : FileSystem}
    (h : Ends fs dir files action result after) : action.run fs dir files = (result, after) := by
  cases h with
  | noDirectory h => simp [run, prepare, h]
  | notCreated h made => simp [run, prepare, h, made, onPath, Except.mapError]
  | finished setUp copies =>
    rw [setUp.run_eq, copies.copyAll_eq]
  | stopped split setUp copies refuses =>
    rw [split, setUp.run_eq, copies.copyAll_refused refuses]

/-- Every run is set up, or ends at once. -/
theorem ends_or_setUp (action : BackupAction) (fs : FileSystem) (dir : String)
    (files : List String) :
    (∃ result, Ends fs dir files action result fs) ∨ ∃ ready, action.SetUp fs dir ready := by
  cases action with
  | backup =>
    cases hthere : fs.pathExists (encode dir) with
    | true => exact .inr ⟨fs, .there hthere⟩
    | false =>
      cases hmade : fs.makeDirectory (encode dir) 0o777 with
      | ok ready => exact .inr ⟨ready, .created hthere hmade⟩
      | error refusal => exact .inl ⟨_, .notCreated hthere hmade⟩
  | restore =>
    cases hfound : fs.isDirectory (encode dir) with
    | true => exact .inr ⟨fs, .found hfound⟩
    | false => exact .inl ⟨_, .noDirectory hfound⟩

theorem exists_ends (action : BackupAction) (fs : FileSystem) (dir : String)
    (files : List String) : ∃ result after, Ends fs dir files action result after := by
  obtain ⟨result, hends⟩ | ⟨ready, hready⟩ := ends_or_setUp action fs dir files
  · exact ⟨result, fs, hends⟩
  obtain ⟨after, hcopies⟩ | ⟨before, file, rest, after, e, hsplit, hcopies, hrefuses⟩ :=
    copies_or_refuses action ready dir files
  · exact ⟨_, after, .finished hready hcopies⟩
  · exact ⟨_, after, .stopped hsplit hready hcopies hrefuses⟩

/-- A run ends as `Ends` says and in no other way.  The copies that it makes change nothing but
files at their destinations, and what stands behind a file that cannot be copied is neither read
nor written: the run ends in the same way whatever it is. -/
theorem run_stops_at_first_failure (action : BackupAction) (hlinks : fs.LinkFree) (dir : String)
    (files : List String) :
    (∀ result after, action.run fs dir files = (result, after) ↔
      Ends fs dir files action result after) ∧
    ∀ ready before after, action.SetUp fs dir ready → action.Copies dir ready before after →
      FilesChanged (action.IsTarget ready dir before) ready after ∧
      ∀ file e, action.Refuses dir after file e → ∀ rest,
        action.run fs dir (before ++ file :: rest) = (.error e, after) := by
  refine ⟨fun result after => ⟨fun hrun => ?_, Ends.run_eq⟩, ?_⟩
  · -- the run has the end that there is
    obtain ⟨result', after', hends⟩ := exists_ends action fs dir files
    obtain ⟨rfl, rfl⟩ := Prod.mk.inj (hends.run_eq.symm.trans hrun)
    exact hends
  · intro ready before after hready hcopies
    refine ⟨hcopies.filesChanged (hready.linkFree hlinks), fun file e hrefuses rest => ?_⟩
    rw [hready.run_eq, hcopies.copyAll_refused hrefuses]

/-- Two files, and room for a third one between them. -/
def diskWithGap : FileSystem where
  nodes := [([encode "p"], .file 0o644 [1]), ([encode "l"], .file 0o644 [3])]

theorem run_diskWithGap :
    ∃ after, backup.run diskWithGap "b" ["p", "m", "l"] = (.error (.notFound "m"), after) ∧
      after.content? (encode "b/p") = some [1] ∧
      after.lookup (after.place (encode "b/l")) = none := by
  have hrun : (backup.run diskWithGap "b" ["p", "m", "l"]).1 = .error (.notFound "m") ∧
      (backup.run diskWithGap "b" ["p", "m", "l"]).2.content? (encode "b/p") = some [1] ∧
      (backup.run diskWithGap "b" ["p", "m", "l"]).2.lookup
        ((backup.run diskWithGap "b" ["p", "m", "l"]).2.place (encode "b/l")) = none := by
    simp only [run, prepare, copyAll, copyOne, pathExists, FileSystem.makeDirectory, copy, find,
      openForWriting, locate, walk_eq_walkLinks]
    decide +kernel
  exact ⟨_, Prod.ext hrun.1 rfl, hrun.2⟩

theorem run_stops_at_first_failure_gap :
    diskWithGap.LinkFree ∧ ∃ after,
      backup.run diskWithGap "b" ["p", "m", "l"] = (.error (.notFound "m"), after) ∧
      Ends diskWithGap "b" ["p", "m", "l"] backup (.error (.notFound "m")) after ∧
      after.content? (encode "b/p") = some [1] ∧
      after.lookup (after.place (encode "b/l")) = none := by
  have hplain : diskWithGap.Plain := plain_of_nodes (by simp [diskWithGap, Node.isFile])
  obtain ⟨after, hrun, hcopied, hbehind⟩ := run_diskWithGap
  have hends :=
    ((run_stops_at_first_failure backup hplain.linkFree "b" ["p", "m", "l"]).1 _ _).1 hrun
  exact ⟨hplain.linkFree, after, hrun, hends, hcopied, hbehind⟩

end TestRig.Files.BackupAction
