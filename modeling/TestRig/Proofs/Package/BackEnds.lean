/-
  TestRig.Proofs.Package.BackEnds

  The questions about packages have the same answers wherever and however their commands
  run, as long as these write text and nothing to their error stream, and end with status
  0 or, with nothing but blanks written, with status 1 (`answers_backEndFree`).  What a search
  without a match looks like differs from back end to back end; its reading does not
  (`judge_of_quiet`).
-/
import TestRig.Proofs.Package.Replies

namespace TestRig.Package

open Command (Capture Dialogue Output Reply)
open Text

/-- Where a command runs and how its output is read back. -/
inductive BackEnd where
  /-- On this machine. -/
  | here
  /-- On another host, with the output read back as bytes. -/
  | bytes
  /-- On another host, with the output read back as lines. -/
  | lines
  deriving DecidableEq

/-- The reply that the back end makes of a finished command. -/
def BackEnd.judge : BackEnd → Capture → Reply
  | here, c => c.judgeLocal
  | bytes, c => c.judgeRemote (.raw none)
  | lines, c => c.judgeRemote .lines

/-- The command wrote text, nothing to its error stream, and ended as a search does: with status 0,
or with status 1 and nothing but blanks written. -/
structure Quiet (c : Capture) : Prop where
  stderr_eq : c.stderr = []
  isText : ∃ text, c.stdout = encode text
  status_eq : c.status = 0 ∨ c.status = 1 ∧ isBlankText c.stdoutText = true

/-- A reply that amounts to these lines: it is cut into them, or there are none and it reports a
search without a match. -/
def AmountsTo (reply : Reply) (lines : List String) : Prop :=
  (∃ output, reply = .ok output ∧ output.lines? = some lines) ∨
    ∃ e, reply = .error e ∧ isNoMatch e = true ∧ lines = []

variable {c : Capture} {reply : Reply} {lines : List String}

/-! ## Replies of back ends -/

theorem Quiet.stdout_eq (h : Quiet c) : c.stdout = encode c.stdoutText := by
  obtain ⟨text, htext⟩ := h.isText
  rw [Capture.stdoutText, htext, decodeLossy_encode]

theorem Quiet.stderrText_eq (h : Quiet c) : c.stderrText = "" := by
  rw [Capture.stderrText, decodeLossy_eq_empty_iff, h.stderr_eq]

theorem Quiet.lines?_stdout (h : Quiet c) :
    (Output.bytes c.stdout).lines? = some (splitLines c.stdoutText) := by
  rw [h.stdout_eq, Output.lines?_encode]

theorem judgeLocal_of_quiet (h : Quiet c) : c.judgeLocal = .ok (.bytes c.stdout) := by
  unfold Capture.judgeLocal
  rw [h.stderr_eq]
  split
  · rfl
  · rfl

theorem judgeRemote_raw_of_quiet (h : Quiet c) :
    c.judgeRemote (.raw none) =
      if c.status = 0 then .ok (.bytes c.stdout) else .error (.failed c.status c.stdoutText) := by
  have herror : c.readErrorText (.raw none) = "" := h.stderrText_eq
  unfold Capture.judgeRemote
  simp [herror, Capture.readOutput, Output.toText, Capture.stdoutText]

theorem judgeRemote_lines_of_quiet (h : Quiet c) :
    c.judgeRemote .lines =
      if c.status = 0 then .ok (.lines (splitLines c.stdoutText))
      else .error (.failed c.status (joinLines (splitLines c.stdoutText))) := by
  have herror : c.readErrorText .lines = "" := by
    rw [Capture.readErrorText, joinLines_splitLines_eq_empty_iff, h.stderrText_eq]
    rfl
  unfold Capture.judgeRemote
  simp [herror, Capture.readOutput, Output.toText]

/-- On every back end the reply amounts to the lines of what the command wrote. -/
theorem judge_of_quiet (b : BackEnd) (h : Quiet c) :
    AmountsTo (b.judge c) (splitLines c.stdoutText) := by
  -- Only on another host is a search without a match a failure.
  cases b with
  | here => exact .inl ⟨_, judgeLocal_of_quiet h, h.lines?_stdout⟩
  | bytes =>
    rw [BackEnd.judge, judgeRemote_raw_of_quiet h]
    rcases h.status_eq with hzero | ⟨hone, hblank⟩
    · rw [if_pos hzero]
      exact .inl ⟨_, rfl, h.lines?_stdout⟩
    · rw [hone, if_neg (by decide)]
      exact .inr ⟨_, rfl, by simp [isNoMatch, hblank], splitLines_eq_nil_iff.2 hblank⟩
  | lines =>
    rw [BackEnd.judge, judgeRemote_lines_of_quiet h]
    rcases h.status_eq with hzero | ⟨hone, hblank⟩
    · rw [if_pos hzero]
      exact .inl ⟨_, rfl, Output.lines?_splitLines _⟩
    · have hempty := joinLines_splitLines_eq_empty_iff.2 hblank
      rw [hone, if_neg (by decide), hempty]
      exact .inr ⟨_, rfl, by decide, splitLines_eq_nil_iff.2 hblank⟩

/-! ## Readings of replies -/

/-- What amounts to lines is read as they are, if a search without a match is read as no lines. -/
theorem AmountsTo.read {α : Type} {answer : Output → α} {excuse : Command.Error → Option α} {a : α}
    (h : AmountsTo reply lines) (hanswer : ∀ output, output.lines? = some lines → answer output = a)
    (hexcuse : lines = [] → ∀ e, isNoMatch e = true → excuse e = some a) :
    readReply answer excuse reply = .ok a := by
  obtain ⟨output, rfl, hlines⟩ | ⟨e, rfl, hnone, hnil⟩ := h
  · rw [← hanswer output hlines]
    rfl
  · exact readReply_excused (hexcuse hnil e hnone)

theorem linesOf_of_lines? {output : Output} (h : output.lines? = some lines) :
    linesOf output = lines := by
  rw [linesOf, h, Option.getD_some]

theorem AmountsTo.presence (h : AmountsTo reply lines) (expected : String) :
    Presence.ofReply expected reply = .ok (.ofInstalled lines expected) := by
  refine h.read (fun output hlines => by rw [linesOf_of_lines? hlines]) ?_
  rintro rfl e hnone
  exact if_pos (isCommandFailure_of_isNoMatch hnone)

theorem AmountsTo.listing (h : AmountsTo reply lines) :
    Listing.ofReply reply = .ok (.packages lines) := by
  refine h.read (fun output hlines => by rw [Listing.ofOutput, hlines]) ?_
  rintro rfl e hnone
  exact if_pos hnone

theorem AmountsTo.entries (h : AmountsTo reply lines) : entriesOfReply reply = .ok lines := by
  refine h.read (fun output hlines => linesOf_of_lines? hlines) ?_
  rintro rfl e hnone
  exact if_pos (isCommandFailure_of_isNoMatch hnone)

/-! ## Answers -/

/-- If every command writes text and ends as a search does, the answers are those that the lines of
the texts give, on every back end. -/
theorem answers_backEndFree (t : Templates) {run : String → Capture}
    (hrun : ∀ command, Quiet (run command)) (b : BackEnd) :
    (∀ expected, (isInstalled t expected).answerBy (fun command => b.judge (run command)) =
      .ok (.ofInstalled (splitLines (run t.rpmList).stdoutText) expected)) ∧
    (∀ filter, (list t filter).answerBy (fun command => b.judge (run command)) =
      .ok (.packages (splitLines (run (listCommand t filter)).stdoutText))) ∧
    ∀ filter dir, (machineState t filter dir).answerBy (fun command => b.judge (run command)) =
      .ok ⟨!isBlankText (run (listCommand t filter)).stdoutText,
        !isBlankText (run (entriesCommand t dir)).stdoutText⟩ := by
  have hreply : ∀ command,
      AmountsTo (b.judge (run command)) (splitLines (run command).stdoutText) :=
    fun command => judge_of_quiet b (hrun command)
  have hfull : ∀ text, (!(splitLines text).isEmpty) = !isBlankText text := by
    intro text
    rw [Bool.eq_iff_iff]
    simp [splitLines_eq_nil_iff]
  refine ⟨fun expected => ?_, fun filter => ?_, fun filter dir => ?_⟩
  · rw [isInstalled_eq, Dialogue.answerBy, Dialogue.answerBy, (hreply _).presence]
  · rw [list_eq, Dialogue.answerBy, Dialogue.answerBy, (hreply _).listing]
  · rw [machineState_eq, Dialogue.answerBy, (hreply _).listing]
    rw [Dialogue.answerBy, Dialogue.answerBy, MachineState.ofEntries, (hreply _).entries]
    simp [Except.map, Listing.found, Listing.names, hfull]

/-- A machine on which one package is installed, and on which every other search is without a
match. -/
def runOnePackage (command : String) : Capture :=
  if command = "rpm -qa" then ⟨0, encode " foo-1.2\n\n", [], Duration.zero⟩
  else ⟨1, encode "\n", [], Duration.zero⟩

theorem answers_backEndFree_one_package :
    (isInstalled {} "foo").answerBy (fun command => BackEnd.lines.judge (runOnePackage command)) =
      .ok .found ∧
    (list {} "bar").answerBy (fun command => BackEnd.here.judge (runOnePackage command)) =
      .ok (.packages []) ∧
    (machineState {} "" "d").answerBy
        (fun command => BackEnd.bytes.judge (runOnePackage command)) = .ok ⟨true, false⟩ := by
  have htext : ∀ command, (runOnePackage command).stdoutText =
      if command = "rpm -qa" then " foo-1.2\n\n" else "\n" := by
    intro command
    unfold runOnePackage
    split
    · exact decodeLossy_encode _
    · exact decodeLossy_encode _
  have hrun : ∀ command, Quiet (runOnePackage command) := by
    intro command
    unfold runOnePackage
    split
    · exact ⟨rfl, ⟨_, rfl⟩, .inl rfl⟩
    · refine ⟨rfl, ⟨_, rfl⟩, .inr ⟨rfl, ?_⟩⟩
      rw [Capture.stdoutText, decodeLossy_encode]
      decide
  refine ⟨((answers_backEndFree {} hrun .lines).1 "foo").trans ?_,
    ((answers_backEndFree {} hrun .here).2.1 "bar").trans ?_,
    ((answers_backEndFree {} hrun .bytes).2.2 "" "d").trans ?_⟩
  · rw [htext]
    rfl
  · rw [htext]
    rfl
  · rw [htext, htext]
    rfl

end TestRig.Package
