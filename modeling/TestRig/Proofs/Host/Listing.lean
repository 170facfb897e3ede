/-
  TestRig.Proofs.Host.Listing

  Utilities in the listing of a directory.  A listing prints the names of the entries,
  each on a line of its own; what is read back are these names, trimmed
  (`entriesOfReply_printed`).  So a utility is found exactly if a printed name is its name
  when blanks at the ends do not count, and the search is exact for just those listings in
  which no name has blanks at its ends (`utility_found_exactly_iff`).
-/
import Mathlib.Tactic.MkIffOfInductiveProp
import TestRig.Host.Probe
import TestRig.Proofs.Command.Exchange
import TestRig.Proofs.Package.Replies
import TestRig.Proofs.Text.Lines

namespace TestRig.Host

open Command (Dialogue Output Reply)
open Package (Error entriesCommand entriesOfReply)
open Text

/-! ## Printed names -/

/-- A name as a listing prints it on a line of its own. -/
@[mk_iff]
structure IsEntryName (name : String) : Prop where
  ne_empty : name ≠ ""
  feed_notMem : '\n' ∉ name.toList
  slash_notMem : '/' ∉ name.toList

instance (name : String) : Decidable (IsEntryName name) :=
  decidable_of_iff' _ (isEntryName_iff name)

/-- The names, each followed by a line feed. -/
def printed (names : List String) : String := String.join (names.map (· ++ "\n"))

theorem printed_cons (name : String) (names : List String) :
    printed (name :: names) = name ++ "\n" ++ printed names := by
  apply String.toList_injective
  simp [printed, String.toList_join]

/-- A name without a line feed is cut into one line, unless it is blank. -/
theorem splitLines_name {name : String} (h : '\n' ∉ name.toList) :
    splitLines name = [trim name].filter (· ≠ "") := by
  have hjoin : joinLines [name] = name := String.intercalate_singleton
  have hline : ∀ line ∈ [name], '\n' ∉ line.toList := by
    intro line hline
    rwa [List.mem_singleton.1 hline]
  have hcut : splitLines (joinLines [name]) = [trim name].filter (· ≠ "") :=
    splitLines_joinLines hline
  rwa [hjoin] at hcut

/-- The lines of the printed names are the names, trimmed and without those that are blank. -/
theorem splitLines_printed {names : List String} (h : ∀ name ∈ names, '\n' ∉ name.toList) :
    splitLines (printed names) = (names.map trim).filter (· ≠ "") := by
  induction names with
  | nil => rfl
  | cons name names ih =>
    have hname : '\n' ∉ name.toList := h name List.mem_cons_self
    have hnames : ∀ other ∈ names, '\n' ∉ other.toList :=
      fun other hother => h other (List.mem_cons_of_mem _ hother)
    rw [printed_cons, splitLines_append, splitLines_name hname, ih hnames, ← List.filter_append]
    rfl

/-- So these are the entries that are read from a listing. -/
theorem entriesOfReply_printed {names : List String} (h : ∀ name ∈ names, '\n' ∉ name.toList) :
    entriesOfReply (.ok (.bytes (encode (printed names)))) =
      .ok ((names.map trim).filter (· ≠ "")) := by
  show Except.ok (Package.linesOf (.bytes (encode (printed names)))) = _
  rw [Package.linesOf, Output.lines?_encode, Option.getD_some, splitLines_printed h]

/-! ## Utilities -/

/-- The search for a utility is one command, and looks for its name among the entries. -/
theorem isUtilityPresent_eq (t : Templates) (utility dir : String) :
    isUtilityPresent t utility dir =
      .ask (entriesCommand t dir) fun reply =>
        .done ((entriesOfReply reply).map (·.contains utility)) := by
  rw [isUtilityPresent, Package.entriesOf_eq, Dialogue.ask_bind]
  refine congrArg (Dialogue.ask _) (funext fun reply => ?_)
  rw [Dialogue.done_bind]
  cases entriesOfReply reply with
  | error e => rfl
  | ok entries => rfl

variable {σ : Type} {t : Templates} {dir : String} {respond : σ → String → Reply × σ} {s : σ}
  {names : List String}

/-- A utility is looked for among the trimmed names of a listing. -/
theorem isUtilityPresent_printed (hnames : ∀ name ∈ names, '\n' ∉ name.toList)
    (hlisting : (respond s (entriesCommand t dir)).1 = .ok (.bytes (encode (printed names))))
    (utility : String) :
    ((isUtilityPresent t utility dir).hold respond s).1 =
      .ok (((names.map trim).filter (· ≠ "")).contains utility) := by
  rw [isUtilityPresent_eq, Dialogue.hold_ask, Dialogue.hold_done, hlisting,
    entriesOfReply_printed hnames]
  rfl

theorem contains_trimmed_iff {utility : String} (hutility : utility ≠ "") :
    ((names.map trim).filter (· ≠ "")).contains utility = true ↔
      ∃ name ∈ names, trim name = utility := by
  rw [List.contains_iff_mem, List.mem_filter, List.mem_map]
  exact and_iff_left (by simpa using hutility)

/-- In a listing that prints each name on a line of its own, a utility is found exactly if one of the
names, trimmed, is its name.  That is the case exactly for the utilities that are listed, whatever
utility is looked for, if and only if none of the listed names has a blank at one of its ends. -/
theorem utility_found_exactly_iff (hnames : ∀ name ∈ names, IsEntryName name)
    (hlisting : (respond s (entriesCommand t dir)).1 = .ok (.bytes (encode (printed names)))) :
    let answer := fun utility => ((isUtilityPresent t utility dir).hold respond s).1
    (∀ utility, IsEntryName utility → ∃ found, answer utility = .ok found ∧
      (found = true ↔ ∃ name ∈ names, trim name = utility)) ∧
    ((∀ utility, IsEntryName utility → (answer utility = .ok true ↔ utility ∈ names)) ↔
      ∀ name ∈ names, trim name = name) := by
  intro answer
  have hanswer : ∀ utility,
      answer utility = .ok (((names.map trim).filter (· ≠ "")).contains utility) :=
    isUtilityPresent_printed (fun name hname => (hnames name hname).feed_notMem) hlisting
  have hfound : ∀ utility, IsEntryName utility →
      (answer utility = .ok true ↔ ∃ name ∈ names, trim name = utility) := by
    intro utility hutility
    rw [hanswer, Except.ok.injEq, contains_trimmed_iff hutility.ne_empty]
  refine ⟨?_, ?_, ?_⟩
  · intro utility hutility
    exact ⟨_, hanswer utility, contains_trimmed_iff hutility.ne_empty⟩
  · -- a listed name is found, so it is a name with the blanks at its ends cut off
    intro hexact name hname
    have hlisted : answer name = .ok true := (hexact name (hnames name hname)).2 hname
    obtain ⟨other, -, rfl⟩ := (hfound name (hnames name hname)).1 hlisted
    exact trim_trim other
  · intro htrimmed utility hutility
    rw [hfound utility hutility]
    constructor
    · rintro ⟨name, hname, rfl⟩
      rw [htrimmed name hname]
      exact hname
    · intro hlisted
      exact ⟨utility, hlisted, htrimmed utility hlisted⟩

/-- A listing of three names, one of them with a blank inside. -/
theorem utility_found_exactly_iff_blank_inside :
    let names := ["s3bench", "s3bench.tar", "s3 bench"]
    let respond := fun (s : Unit) (_ : String) => (Except.ok (.bytes (encode (printed names))), s)
    let answer := fun utility => ((isUtilityPresent {} utility "d").hold respond ()).1
    (answer "s3 bench" = .ok true ↔ "s3 bench" ∈ names) ∧ (answer "s3" = .ok true ↔ "s3" ∈ names) := by
  intro names respond answer
  have hnames : ∀ name ∈ names, IsEntryName name := by decide
  have hlisting : (respond () (entriesCommand {} "d")).1 = .ok (.bytes (encode (printed names))) := rfl
  have htrimmed : ∀ name ∈ names, trim name = name := by decide
  have hexact := (utility_found_exactly_iff hnames hlisting).2.2 htrimmed
  exact ⟨hexact "s3 bench" (by decide), hexact "s3" (by decide)⟩

/-- An entry whose name begins with a blank is not found, and is taken for another utility that is
not there. -/
theorem blank_at_start_found_as_another :
    let names := [" s3bench"]
    let respond := fun (s : Unit) (_ : String) => (Except.ok (.bytes (encode (printed names))), s)
    let answer := fun utility => ((isUtilityPresent {} utility "d").hold respond ()).1
    IsEntryName " s3bench" ∧ answer " s3bench" = .ok false ∧ " s3bench" ∈ names ∧
      IsEntryName "s3bench" ∧ answer "s3bench" = .ok true ∧ "s3bench" ∉ names := by
  intro names respond answer
  have hnames : ∀ name ∈ names, '\n' ∉ name.toList := by decide
  have hanswer : ∀ utility,
      answer utility = .ok (((names.map trim).filter (· ≠ "")).contains utility) :=
    isUtilityPresent_printed hnames rfl
  rw [hanswer, hanswer]
  decide

end TestRig.Host
