/-
  TestRig.Proofs.Package.Replies

  What the questions about packages make of the replies.  Each question but one is a
  single command whose reply is read by a function of its own; the state of a machine is
  read from two replies (`machineState_eq`).  A machine is called clean only if neither
  reply was text with a character that is not blank (`blank_text_of_clean`).
-/
import TestRig.Package.Query
import TestRig.Proofs.Command.Judgement

namespace TestRig.Package

open Command (Dialogue Output Reply Script)
open Text

variable {α : Type} {t : Templates} {filter dir : String}

/-! ## Reading a reply -/

/-- Reads a reply: an output is answered, a failure that has an excuse is the answer that the excuse
gives, and any other failure is reported. -/
def readReply (answer : Output → α) (excuse : Command.Error → Option α) : Reply → Except Error α
  | .ok output => .ok (answer output)
  | .error e =>
    match excuse e with
    | some a => .ok a
    | none => .error (.command e)

theorem readReply_excused {answer : Output → α} {excuse : Command.Error → Option α}
    {e : Command.Error} {a : α} (h : excuse e = some a) :
    readReply answer excuse (.error e) = .ok a := by
  simp [readReply, h]

/-- What is reported is a failure without an excuse. -/
theorem readReply_eq_error_iff {answer : Output → α} {excuse : Command.Error → Option α}
    {reply : Reply} {error : Error} :
    readReply answer excuse reply = .error error ↔
      ∃ e, reply = .error e ∧ excuse e = none ∧ error = .command e := by
  cases reply with
  | ok output => simp [readReply]
  | error e =>
    cases hexcuse : excuse e with
    | some a => simp [readReply, hexcuse]
    | none => simp [readReply, hexcuse, eq_comm]

/-- A search without a match is a failure that the command reports itself. -/
theorem isCommandFailure_of_isNoMatch {e : Command.Error} (h : isNoMatch e = true) :
    e.isCommandFailure = true := by
  cases e <;> first | rfl | cases h

/-- What the reply to the list of packages says about a package. -/
def Presence.ofReply (expected : String) : Reply → Except Error Presence :=
  readReply (fun output => .ofInstalled (linesOf output) expected)
    fun e => if e.isCommandFailure then some .notFound else none

/-- What the reply to the command that installs a package says. -/
def outputOfReply : Reply → Except Error Output := readReply id fun _ => none

/-- What the reply to the list of the packages of a filter says. -/
def Listing.ofReply : Reply → Except Error Listing :=
  readReply .ofOutput fun e => if isNoMatch e then some (.packages []) else none

/-- What the reply to the list of the entries of a directory says. -/
def entriesOfReply : Reply → Except Error (List String) :=
  readReply linesOf fun e => if e.isCommandFailure then some [] else none

/-- The state of a machine by a listing of packages and the reply to the list of the entries of the
directory. -/
def MachineState.ofEntries (listing : Listing) (entries : Reply) : Except Error MachineState :=
  (entriesOfReply entries).map fun names => ⟨listing.found, !names.isEmpty⟩

/-! ## The questions as commands -/

/-- A question that excuses certain failures is a command with a reading of the reply. -/
theorem ask_readReply (command : String) (answer : Output → α) (excused : Command.Error → Bool)
    (a : α) :
    (Dialogue.ask command fun reply =>
        match reply with
        | .ok output => .done (.ok (answer output))
        | .error e => .done (if excused e then .ok a else .error (.command e))) =
      Dialogue.ask command fun reply =>
        .done (readReply answer (fun e => if excused e then some a else none) reply) := by
  refine congrArg (Dialogue.ask command) (funext fun reply => ?_)
  cases reply with
  | ok output => rfl
  | error e => cases he : excused e <;> simp [readReply, he]

theorem isInstalled_eq (t : Templates) (expected : String) :
    isInstalled t expected =
      .ask t.rpmList fun reply => .done (Presence.ofReply expected reply) :=
  ask_readReply t.rpmList (fun output => Presence.ofInstalled (linesOf output) expected)
    Command.Error.isCommandFailure Presence.notFound

theorem install_eq (t : Templates) (package : String) :
    install t package =
      if isBlankText package then .done (.error (.invalidArgument "empty package"))
      else .ask (Template.fill t.rpmInstall [("package", package)]) fun reply =>
        .done (outputOfReply reply) := by
  unfold install
  split
  · rfl
  · refine congrArg (Dialogue.ask _) (funext fun reply => ?_)
    cases reply <;> rfl

theorem list_eq (t : Templates) (filter : String) :
    list t filter = .ask (listCommand t filter) fun reply => .done (Listing.ofReply reply) :=
  ask_readReply (listCommand t filter) Listing.ofOutput isNoMatch (Listing.packages [])

/-- The command that lists the entries of a directory. -/
def entriesCommand (t : Templates) (dir : String) : String :=
  Template.fill t.listDir [("path", dir)]

theorem entriesOf_eq (t : Templates) (dir : String) :
    entriesOf t dir = .ask (entriesCommand t dir) fun reply => .done (entriesOfReply reply) :=
  ask_readReply (entriesCommand t dir) linesOf Command.Error.isCommandFailure []

/-- The entries of the directory are asked for only when the packages could be listed. -/
theorem machineState_eq (t : Templates) (filter dir : String) :
    machineState t filter dir =
      .ask (listCommand t filter) fun listed =>
        match Listing.ofReply listed with
        | .error e => .done (.error e)
        | .ok listing =>
          .ask (entriesCommand t dir) fun entries =>
            .done (MachineState.ofEntries listing entries) := by
  rw [machineState, list_eq, entriesOf_eq, Dialogue.ask_bind]
  refine congrArg (Dialogue.ask _) (funext fun listed => ?_)
  rw [Dialogue.done_bind]
  cases Listing.ofReply listed with
  | error e => rfl
  | ok listing =>
    simp only [Dialogue.ask_bind, Dialogue.done_bind, MachineState.ofEntries]
    refine congrArg (Dialogue.ask _) (funext fun entries => ?_)
    cases entriesOfReply entries <;> rfl

/-! ## What is counted -/

/-- Text holds no lines exactly if it is blank. -/
theorem linesOf_eq_nil_iff {output : Output} (h : output.IsText) :
    linesOf output = [] ↔ isBlankText output.toText = true := by
  obtain ⟨lines, hlines⟩ := Option.isSome_iff_exists.1 (Output.isSome_lines?_iff.2 h)
  rw [← Output.lines?_eq_nil_iff h, linesOf, hlines, Option.getD_some, Option.some.injEq]

/-- A listing holds a package exactly if it was read from text that is not blank. -/
theorem found_ofOutput_iff {output : Output} :
    (Listing.ofOutput output).found = true ↔
      output.IsText ∧ isBlankText output.toText = false := by
  cases hlines : output.lines? with
  | none =>
    have hraw : ¬ output.IsText := by
      rw [← Output.isSome_lines?_iff, hlines]
      exact Bool.false_ne_true
    simp [Listing.ofOutput, hlines, Listing.found, Listing.names, hraw]
  | some lines =>
    have htext : output.IsText := by
      rw [← Output.isSome_lines?_iff, hlines]
      rfl
    have hnil := Output.lines?_eq_nil_iff htext
    rw [hlines, Option.some.injEq] at hnil
    simp [Listing.ofOutput, hlines, Listing.found, Listing.names, htext, hnil]

/-- The packages cannot be listed exactly if the command fails in another way than a search without
a match. -/
theorem listing_ofReply_eq_error_iff {listed : Reply} {error : Error} :
    Listing.ofReply listed = .error error ↔
      ∃ e, listed = .error e ∧ isNoMatch e = false ∧ error = .command e := by
  rw [Listing.ofReply, readReply_eq_error_iff]
  simp

/-- A package was listed exactly if the reply was text that is not blank. -/
theorem found_of_ofReply {listed : Reply} {listing : Listing}
    (h : Listing.ofReply listed = .ok listing) :
    listing.found = true ↔
      ∃ output, listed = .ok output ∧ output.IsText ∧ isBlankText output.toText = false := by
  cases listed with
  | ok output =>
    obtain rfl := Except.ok.inj h
    simp [found_ofOutput_iff]
  | error e =>
    cases he : isNoMatch e with
    | true =>
      rw [Listing.ofReply, readReply_excused (if_pos he)] at h
      obtain rfl := Except.ok.inj h
      simp [Listing.found, Listing.names]
    | false =>
      rw [listing_ofReply_eq_error_iff.2 ⟨e, rfl, he, rfl⟩] at h
      cases h

theorem ofEntries_eq_ok_iff {listing : Listing} {entries : Reply} {s : MachineState} :
    MachineState.ofEntries listing entries = .ok s ↔
      ∃ names, entriesOfReply entries = .ok names ∧ s = ⟨listing.found, !names.isEmpty⟩ := by
  unfold MachineState.ofEntries
  cases entriesOfReply entries with
  | error e => simp [Except.map]
  | ok names => simp [Except.map, eq_comm]

/-! ## The state of a machine -/

/-- The state of a machine is read from two replies, in order. -/
theorem machineState_onScript_eq_ok {listed entries : Reply} {rest : List Reply}
    {asked : List String} {s : MachineState}
    (h : ((machineState t filter dir).onScript ⟨listed :: entries :: rest, asked⟩).1 = .ok s) :
    ∃ listing, Listing.ofReply listed = .ok listing ∧
      MachineState.ofEntries listing entries = .ok s := by
  rw [machineState_eq, Dialogue.onScript, Dialogue.hold] at h
  simp only [Script.respond] at h
  cases hlisting : Listing.ofReply listed with
  | error e =>
    rw [hlisting] at h
    cases h
  | ok listing =>
    rw [hlisting] at h
    exact ⟨listing, rfl, h⟩

/-- Packages are installed exactly if their listing is text that is not blank, and the provisioner
is there if the entries of its directory are.  So a machine is called clean only if neither of the
replies is text that is not blank. -/
theorem blank_text_of_clean {listed entries : Reply} {rest : List Reply} {asked : List String}
    {s : MachineState}
    (h : ((machineState t filter dir).onScript ⟨listed :: entries :: rest, asked⟩).1 = .ok s) :
    (s.rpmInstalled = true ↔
      ∃ output, listed = .ok output ∧ output.IsText ∧ isBlankText output.toText = false) ∧
    (∀ output, entries = .ok output → output.IsText → isBlankText output.toText = false →
      s.provisionerPresent = true) ∧
    (s.isClean = true → ∀ output, listed = .ok output ∨ entries = .ok output → output.IsText →
      isBlankText output.toText = true) := by
  obtain ⟨listing, hlisting, hstate⟩ := machineState_onScript_eq_ok h
  obtain ⟨names, hnames, rfl⟩ := ofEntries_eq_ok_iff.1 hstate
  have hfound := found_of_ofReply hlisting
  have hpresent : ∀ output, entries = .ok output → output.IsText →
      isBlankText output.toText = false → (!names.isEmpty) = true := by
    rintro output rfl htext hfull
    obtain rfl := Except.ok.inj hnames
    have hne : linesOf output ≠ [] := by
      rw [ne_eq, linesOf_eq_nil_iff htext, hfull]
      exact Bool.false_ne_true
    simpa using hne
  refine ⟨hfound, hpresent, ?_⟩
  intro hclean output houtput htext
  obtain ⟨hnone, hempty⟩ : listing.found = false ∧ (!names.isEmpty) = false := by
    simpa [MachineState.isClean] using hclean
  by_contra hfull
  rw [Bool.not_eq_true] at hfull
  rcases houtput with hlisted | hentries
  · rw [hfound.2 ⟨output, hlisted, htext, hfull⟩] at hnone
    cases hnone
  · rw [hpresent output hentries htext hfull] at hempty
    cases hempty

theorem blank_text_of_clean_leftover :
    ∃ s, ((machineState {} "x" "d").onScript
        ⟨[.error (.failed 1 "\n"), .ok (.lines [" ", "cli"])], []⟩).1 = .ok s ∧
      s.provisionerPresent = true := by
  have hrun : ((machineState {} "x" "d").onScript
      ⟨[.error (.failed 1 "\n"), .ok (.lines [" ", "cli"])], []⟩).1 = .ok ⟨false, true⟩ := by rfl
  exact ⟨_, hrun, (blank_text_of_clean hrun).2.1 (.lines [" ", "cli"]) rfl trivial (by decide)⟩

/-- A listing of packages that is no text holds none: bytes that are not UTF-8 leave the machine
clean. -/
theorem clean_despite_bytes_beyond_text :
    isBlankText (Output.toText (.bytes [0xFF])) = false ∧
    ((machineState {} "x" "d").onScript ⟨[.ok (.bytes [0xFF]), .ok (.bytes [])], []⟩).1 =
      .ok ⟨false, false⟩ ∧
    MachineState.isClean ⟨false, false⟩ = true := by
  exact ⟨by decide, by rfl, by rfl⟩

end TestRig.Package
