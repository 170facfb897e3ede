/-
  TestRig.Proofs.Files.Sweep

  The account that a cleanup gives of itself, for any removal of single entries.  The
  removal is run with a record of its attempts, and the result of the cleanup is compared
  with the record (`sweep_account`).  The names are gone through in the order of their
  bytes, in whatever order the system lists them (`shownNames_congr`).
-/
import TestRig.Files.Cleanup
import TestRig.Proofs.FileSystem.Following
import TestRig.Proofs.Text.Order

namespace TestRig.Files

open FileSystem
open Text (encode)

/-! ## Listed names -/

theorem perm_shownNames (names : List Name) :
    (shownNames names).Perm (names.map Text.decodeLossy) := List.mergeSort_perm _ _

theorem pairwise_shownNames (names : List Name) : (shownNames names).Pairwise (· ≤ ·) := by
  have htrans : ∀ a b c : String, decide (a ≤ b) = true → decide (b ≤ c) = true →
      decide (a ≤ c) = true := by
    simp only [decide_eq_true_eq]
    exact fun a b c => Std.le_trans
  have htotal : ∀ a b : String, (decide (a ≤ b) || decide (b ≤ a)) = true := by
    simp only [Bool.or_eq_true, decide_eq_true_eq]
    exact fun a b => Std.le_total
  exact (List.pairwise_mergeSort htrans htotal _).imp fun hle => of_decide_eq_true hle

/-- Names in their order are the listed ones. -/
theorem shownNames_eq {names : List Name} {texts : List String}
    (hperm : (names.map Text.decodeLossy).Perm texts) (hsorted : texts.Pairwise (· ≤ ·)) :
    shownNames names = texts :=
  ((perm_shownNames names).trans hperm).eq_of_pairwise (fun _ _ _ _ => Std.le_antisymm)
    (pairwise_shownNames names) hsorted

/-- The listed names do not depend on the order in which the system enumerates the entries. -/
theorem shownNames_congr {names names' : List Name} (h : names.Perm names') :
    shownNames names = shownNames names' :=
  shownNames_eq ((h.map _).trans (perm_shownNames names').symm) (pairwise_shownNames names')

/-! ## Attempts -/

/-- A call of a removal. -/
structure Attempt where
  path : String
  outcome : Except IoError Unit

section
variable {σ : Type} (remove : σ → String → Except IoError Unit × σ) (dir : String)

/-- The removal with a record of its attempts, the last one at the end. -/
def recorded (s : σ × List Attempt) (path : String) : Except IoError Unit × (σ × List Attempt) :=
  let (outcome, after) := remove s.1 path
  (outcome, after, s.2 ++ [⟨path, outcome⟩])

/-- Attempts on the entries of the given names, each of which succeeded. -/
def succeeded (names : List String) : List Attempt :=
  names.map fun name => ⟨Path.join dir name, .ok ()⟩

/-- The attempts on the entries of the given names, and the result that accounts for them, when
`removed` entries were gone before. -/
inductive Account (removed : Nat) (names : List String) :
    List Attempt → Except FileError Nat → Prop where
  /-- Every entry was removed. -/
  | finished : Account removed names (succeeded dir names) (.ok (removed + names.length))
  /-- An entry was refused, and none behind it was attempted. -/
  | aborted {before after : List String} {name : String} {refusal : IoError}
      (split : names = before ++ name :: after) :
      Account removed names
        (succeeded dir before ++ [⟨Path.join dir name, .error refusal⟩])
        (.error (.cleanupAborted (Path.join dir name) (removed + before.length) refusal.message))

variable {dir}

theorem Account.cons {removed : Nat} {name : String} {rest : List String}
    {attempts : List Attempt} {result : Except FileError Nat}
    (h : Account dir (removed + 1) rest attempts result) :
    Account dir removed (name :: rest) (⟨Path.join dir name, .ok ()⟩ :: attempts) result := by
  cases h with
  | finished =>
    have hcount : removed + 1 + rest.length = removed + (name :: rest).length := by
      rw [List.length_cons]
      omega
    rw [hcount]
    exact .finished
  | @aborted before after failing refusal split =>
    have hcount : removed + 1 + before.length = removed + (name :: before).length := by
      rw [List.length_cons]
      omega
    have hsplit : name :: rest = (name :: before) ++ failing :: after := by
      rw [split, List.cons_append]
    rw [hcount]
    exact .aborted hsplit

/-- All attempts succeeded exactly if the result is the number of names. -/
theorem Account.result_eq_ok_iff {names : List String} {attempts : List Attempt}
    {result : Except FileError Nat} (h : Account dir 0 names attempts result) :
    result = .ok names.length ↔ ∀ attempt ∈ attempts, attempt.outcome = .ok () := by
  cases h with
  | finished =>
    have hall : ∀ attempt ∈ succeeded dir names, attempt.outcome = .ok () := by
      intro attempt hattempt
      obtain ⟨name, -, rfl⟩ := List.mem_map.1 hattempt
      rfl
    rw [Nat.zero_add]
    exact iff_of_true rfl hall
  | aborted split =>
    refine iff_of_false (fun heq => by cases heq) fun hall => ?_
    have hlast := hall _ (List.mem_append_right _ List.mem_cons_self)
    cases hlast

variable (dir)

/-- A sweep ends in the same way whether its removal is recorded or not, and its result accounts for
the attempts on record. -/
theorem sweep_account (removed : Nat) (names : List String) (s : σ) (record : List Attempt) :
    ∃ attempts result after, sweep remove dir removed names s = (result, after) ∧
      sweep (recorded remove) dir removed names (s, record) =
        (result, after, record ++ attempts) ∧
      Account dir removed names attempts result := by
  induction names generalizing removed s record with
  | nil =>
    refine ⟨[], .ok removed, s, rfl, ?_, .finished⟩
    rw [sweep, List.append_nil]
  | cons name rest ih =>
    rw [sweep, sweep]
    rcases hremove : remove s (Path.join dir name) with ⟨refusal | ⟨⟩, s₁⟩
    · refine ⟨[⟨Path.join dir name, .error refusal⟩],
        .error (.cleanupAborted (Path.join dir name) removed refusal.message), s₁, rfl, ?_, ?_⟩
      · simp only [recorded, hremove]
      · have hsplit : name :: rest = [] ++ name :: rest := rfl
        exact .aborted hsplit
    · obtain ⟨attempts, result, after, hplain, hrecorded, haccount⟩ :=
        ih (removed + 1) s₁ (record ++ [⟨Path.join dir name, .ok ()⟩])
      refine ⟨⟨Path.join dir name, .ok ()⟩ :: attempts, result, after, hplain, ?_, haccount.cons⟩
      simp only [recorded, hremove]
      rw [hrecorded, List.append_assoc, List.singleton_append]

end

/-! ## Cleanups -/

/-- A cleanup of a directory that can be listed is a sweep of the listed names. -/
theorem cleanupWith_eq_sweep {σ : Type} {files : σ → FileSystem}
    (remove : σ → String → Except IoError Unit × σ) {s : σ} {dir : String} {entries : List Name}
    (h : (files s).entries (encode dir) = .ok entries) :
    cleanupWith files remove s dir = sweep remove dir 0 (shownNames entries) s := by
  have hlist : list (files s) dir = .ok (shownNames entries) := by
    rw [list, h]
    rfl
  rw [cleanupWith, hlist]

/-- A cleanup attempts the entries of the listed names in the order of their bytes, each one once,
up to the first failure, and its result accounts for the attempts.  It does not depend on the order
in which the system enumerates the entries. -/
theorem cleanup_accounts_for_attempts {σ : Type} (files : σ → FileSystem)
    (remove : σ → String → Except IoError Unit × σ) (s : σ) (dir : String) {entries : List Name}
    (h : (files s).entries (encode dir) = .ok entries) :
    ∃ names attempts result after,
      names.Perm (entries.map Text.decodeLossy) ∧
      names.Pairwise (fun a b => encode a ≤ encode b) ∧
      cleanupWith files remove s dir = (result, after) ∧
      cleanupWith (files ∘ Prod.fst) (recorded remove) (s, []) dir = (result, after, attempts) ∧
      Account dir 0 names attempts result ∧
      (result = .ok entries.length ↔ ∀ attempt ∈ attempts, attempt.outcome = .ok ()) ∧
      ∀ (reordered : σ → FileSystem) (entries' : List Name),
        (reordered s).entries (encode dir) = .ok entries' → entries'.Perm entries →
        cleanupWith reordered remove s dir = (result, after) ∧
        cleanupWith (reordered ∘ Prod.fst) (recorded remove) (s, []) dir =
          (result, after, attempts) := by
  obtain ⟨attempts, result, after, hplain, hrecorded, haccount⟩ :=
    sweep_account remove dir 0 (shownNames entries) s []
  rw [List.nil_append] at hrecorded
  have hcount : (shownNames entries).length = entries.length := by
    rw [(perm_shownNames entries).length_eq, List.length_map]
  -- a sweep of the names in their order, however they are enumerated
  have hruns : ∀ (view : σ → FileSystem) (entries' : List Name),
      (view s).entries (encode dir) = .ok entries' → entries'.Perm entries →
      cleanupWith view remove s dir = (result, after) ∧
      cleanupWith (view ∘ Prod.fst) (recorded remove) (s, []) dir = (result, after, attempts) := by
    intro view entries' hentries hperm
    have hstart : ((view ∘ Prod.fst) (s, ([] : List Attempt))).entries (encode dir) =
        .ok entries' := hentries
    rw [cleanupWith_eq_sweep remove hentries, cleanupWith_eq_sweep (recorded remove) hstart,
      shownNames_congr hperm]
    exact ⟨hplain, hrecorded⟩
  obtain ⟨hrun, hrun'⟩ := hruns files entries h (.refl _)
  refine ⟨shownNames entries, attempts, result, after, perm_shownNames entries, ?_, hrun, hrun',
    haccount, ?_, hruns⟩
  · exact (pairwise_shownNames entries).imp Text.encode_le_encode
  · rw [← hcount]
    exact haccount.result_eq_ok_iff

/-- A directory of four files. -/
def diskOfFour : FileSystem where
  nodes := [([encode "d"], .directory 0o755), ([encode "d", encode "c"], .file 0o644 []),
    ([encode "d", encode "é"], .file 0o644 []), ([encode "d", encode "a"], .file 0o644 []),
    ([encode "d", encode "B"], .file 0o644 [])]

/-- A removal that counts its calls and refuses the third one. -/
def refuseThird (s : FileSystem × Nat) (path : String) :
    Except IoError Unit × (FileSystem × Nat) :=
  if s.2 = 2 then (.error .accessDenied, s)
  else ((removeEntry s.1 path).1, (removeEntry s.1 path).2, s.2 + 1)

theorem cleanup_accounts_for_attempts_third_refused :
    ∃ names attempts result after,
      names.Perm ["c", "é", "a", "B"] ∧ names.Pairwise (fun a b => encode a ≤ encode b) ∧
      cleanupWith Prod.fst refuseThird (diskOfFour, 0) "d" = (result, after) ∧
      result = .error (.cleanupAborted "d/c" 2 "Permission denied (os error 13)") ∧
      Account "d" 0 names attempts result := by
  have hentries : diskOfFour.entries (encode "d") =
      .ok [encode "c", encode "é", encode "a", encode "B"] := by
    simp only [entries, find, locate, walk_eq_walkLinks]
    decide +kernel
  have hresult : (cleanupWith Prod.fst refuseThird (diskOfFour, 0) "d").1 =
      .error (.cleanupAborted "d/c" 2 "Permission denied (os error 13)") := by
    have hnames : shownNames [encode "c", encode "é", encode "a", encode "B"] =
        ["B", "a", "c", "é"] := shownNames_eq (by decide +kernel) (by decide +kernel)
    have hsweep : cleanupWith Prod.fst refuseThird (diskOfFour, 0) "d" =
        sweep refuseThird "d" 0 ["B", "a", "c", "é"] (diskOfFour, 0) :=
      hnames ▸ cleanupWith_eq_sweep refuseThird hentries
    rw [hsweep]
    simp only [sweep, refuseThird, removeEntry, FileSystem.removeFile, removeTree, find, locate,
      walk_eq_walkLinks]
    decide +kernel
  obtain ⟨names, attempts, result, after, hperm, hsorted, hrun, -, haccount, -⟩ :=
    cleanup_accounts_for_attempts Prod.fst refuseThird (diskOfFour, 0) "d" hentries
  refine ⟨names, attempts, result, after, ?_, hsorted, hrun, ?_, haccount⟩
  · simpa using hperm
  · rw [← hresult, hrun]

end TestRig.Files
