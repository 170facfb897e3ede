/-
  TestRig.Proofs.Files.Missing

  Which path a backup or a restore names as missing.  It is the source of the copy that
  failed, or the backup directory.  A copy finds no entry if its source is missing or if
  its destination strays, and the second cannot happen to a backup without links, since
  the backup directory stands while the files are copied (`SetUp.stands`).
-/
import TestRig.Proofs.FileSystem.Straying
import TestRig.Proofs.Files.Batch

namespace TestRig

/-- The system's reason is blamed on the path of the operation. -/
theorem FileError.ofIo_eq_notFound_iff {path p : String} {refusal : IoError} :
    FileError.ofIo path refusal = .notFound p ↔ refusal = .noEntry ∧ path = p := by
  unfold FileError.ofIo
  by_cases hentry : refusal = .noEntry
  · simp [hentry]
  · rw [if_neg hentry]
    refine iff_of_false ?_ fun h => hentry h.1
    split
    · simp
    split <;> simp

namespace Files.BackupAction

open FileSystem
open Text (encode)

variable {action : BackupAction} {fs ready after : FileSystem} {dir file p : String}
  {files : List String}

/-! ## One file -/

/-- A file that is refused as missing has a missing source, or its destination strays. -/
theorem Refuses.notFound (h : action.Refuses dir after file (.notFound p)) :
    ∃ target, action.route? dir file = some (p, target) ∧
      (after.pathExists (encode p) = false ∨ after.Strays (encode target)) := by
  generalize herror : FileError.notFound p = e at h
  cases h with
  | nameless name => cases herror
  | @refused source target refusal route copy =>
    obtain ⟨rfl, rfl⟩ := FileError.ofIo_eq_notFound_iff.1 herror.symm
    exact ⟨target, route, copy_eq_noEntry copy⟩

/-! ## The backup directory -/

/-- A backup starts its copies when something stands at its directory. -/
theorem SetUp.stands (hlinks : fs.LinkFree) (h : backup.SetUp fs dir ready) :
    ready.Stands (encode dir) := by
  cases h with
  | there h => exact stands_of_pathExists hlinks h
  | created h made => exact stands_of_makeDirectory hlinks made

/-- While a backup copies files, its destinations do not stray. -/
theorem SetUp.not_strays (hlinks : fs.LinkFree) (h : backup.SetUp fs dir ready)
    {before : List String} (hcopies : backup.Copies dir ready before after) {source target : String}
    (hroute : backup.route? dir file = some (source, target)) : ¬ after.Strays (encode target) := by
  have hready : ready.LinkFree := h.linkFree hlinks
  have hchanged := hcopies.filesChanged hready
  have hstands : after.Stands (encode dir) := hchanged.stands (h.stands hlinks)
  obtain ⟨name, hname, hplaces⟩ := Option.map_eq_some_iff.1 hroute
  obtain ⟨-, rfl⟩ := Prod.mk.inj hplaces
  exact hstands.not_strays_join (hchanged.linkFree hready) (Path.isName_of_fileName? hname)

/-! ## Whole runs -/

/-- What a run names as missing is missing when it ends.  There are two other ways to the error: a
restore finds something else than a directory to restore from, or the destination of the copy that
failed strays.  Neither is open to a backup without links. -/
theorem notFound_names_missing
    (h : action.run fs dir files = (.error (.notFound p), after)) :
    (after.pathExists (encode p) = false ∨
      (action = restore ∧ p = dir ∧ after = fs ∧ fs.isDirectory (encode dir) = false) ∨
      ∃ file ∈ files, ∃ target, action.route? dir file = some (p, target) ∧
        after.Strays (encode target)) ∧
    (action = backup → fs.LinkFree → after.pathExists (encode p) = false) := by
  obtain ⟨result, ended, hends⟩ := exists_ends action fs dir files
  obtain ⟨hresult, rfl⟩ := Prod.mk.inj (hends.run_eq.symm.trans h)
  cases hends with
  | noDirectory hother =>
    obtain rfl : dir = p := by simpa using hresult
    exact ⟨.inr (.inl ⟨rfl, rfl, rfl, hother⟩), fun haction => by cases haction⟩
  | notCreated hmissing made =>
    obtain ⟨-, rfl⟩ := FileError.ofIo_eq_notFound_iff.1 (Except.error.inj hresult)
    exact ⟨.inl hmissing, fun _ _ => hmissing⟩
  | finished setUp copies => cases hresult
  | @stopped _ ready _ before rest file e split setUp copies refuses =>
    -- the copy that failed is the one that names the path
    obtain rfl := Except.error.inj hresult
    obtain ⟨target, hroute, hwhy⟩ := refuses.notFound
    constructor
    · rcases hwhy with hmissing | hstrays
      · exact .inl hmissing
      · have hmem : file ∈ files := by simp [split]
        exact .inr (.inr ⟨file, hmem, target, hroute, hstrays⟩)
    · rintro rfl hlinks
      exact hwhy.resolve_right (setUp.not_strays hlinks copies hroute)

/-- A backup names the file that is not there. -/
theorem notFound_names_missing_gap :
    ∃ after, backup.run diskWithGap "b" ["p", "m", "l"] = (.error (.notFound "m"), after) ∧
      diskWithGap.LinkFree ∧ after.pathExists (encode "m") = false := by
  have hlinks : diskWithGap.LinkFree :=
    (plain_of_nodes (by simp [diskWithGap, Node.isFile])).linkFree
  obtain ⟨after, hrun, -, -⟩ := run_diskWithGap
  exact ⟨after, hrun, hlinks, (notFound_names_missing hrun).2 rfl hlinks⟩

/-- A disk on which a file stands where backups are looked for. -/
def diskWithoutBackups : FileSystem where
  nodes := [([encode "b"], .file 0o644 [1])]

/-- A restore names the backup directory as missing although something is there. -/
theorem restore_names_what_is_no_directory :
    restore.run diskWithoutBackups "b" ["x"] = (.error (.notFound "b"), diskWithoutBackups) ∧
      diskWithoutBackups.LinkFree ∧ diskWithoutBackups.pathExists (encode "b") = true := by
  have hother : diskWithoutBackups.isDirectory (encode "b") = false := by
    simp only [isDirectory, find, locate, walk_eq_walkLinks]
    decide +kernel
  have hends : Ends diskWithoutBackups "b" ["x"] restore (.error (.notFound "b"))
      diskWithoutBackups := .noDirectory hother
  have hlinks : diskWithoutBackups.LinkFree :=
    (plain_of_nodes (by simp [diskWithoutBackups, Node.isFile])).linkFree
  refine ⟨hends.run_eq, hlinks, ?_⟩
  simp only [pathExists, find, locate, walk_eq_walkLinks]
  decide +kernel

end Files.BackupAction

end TestRig
