/-
  TestRig.Proofs.Command.LocalJudgement

  The judgement on a local command, told by the texts that a caller sees.  The command is
  judged by its bytes; what decides are ASCII markers, and those stand in the bytes
  exactly if they stand in the shown text (`occursIn_encode_iff`).  So whoever reads the
  error or the output can tell how the command was judged (`judgeLocal_told_by_texts`).
-/
import TestRig.Proofs.Command.Judgement
import TestRig.Proofs.Text.Showing

namespace TestRig.Command.Capture

open Text

/-! ## Markers in texts -/

/-- The text confirms that a key was installed. -/
def ConfirmsKey (text : String) : Prop :=
  "Number of key(s) added: 1".toList <:+: text.toList

/-- The text says that an executable was not found. -/
def SaysNotFound (text : String) : Prop :=
  "command not found".toList <:+: text.toList ∨
    "not recognized as an internal or external command".toList <:+: text.toList

/-- An ASCII marker stands in bytes exactly if it stands in the text shown for them. -/
theorem occursIn_encode_iff {marker : String} (hascii : ∀ c ∈ marker.toList, c.toNat < 0x80)
    {bytes : Bytes} :
    occursIn (encode marker) bytes = true ↔ marker.toList <:+: (decodeLossy bytes).toList := by
  rw [occursIn_iff, infix_decodeLossy_iff hascii]
  rfl

theorem occursIn_keyAddedMarker_iff {bytes : Bytes} :
    occursIn keyAddedMarker bytes = true ↔ ConfirmsKey (decodeLossy bytes) :=
  occursIn_encode_iff (by simp)

theorem any_notFoundMarkers_iff {bytes : Bytes} :
    notFoundMarkers.any (occursIn · bytes) = true ↔ SaysNotFound (decodeLossy bytes) := by
  rw [notFoundMarkers, List.any_cons, List.any_cons, List.any_nil, Bool.or_false, Bool.or_eq_true,
    occursIn_encode_iff (by simp), occursIn_encode_iff (by simp)]
  rfl

/-! ## The judgement -/

variable {c : Capture}

theorem judgeLocal_of_confirmsKey (h : ConfirmsKey c.stdoutText) :
    c.judgeLocal = .ok (.bytes c.stdout) := by
  rw [judgeLocal, if_pos (occursIn_keyAddedMarker_iff.2 h)]

theorem judgeLocal_of_saysNotFound (hkey : ¬ ConfirmsKey c.stdoutText)
    (h : SaysNotFound c.stderrText) : c.judgeLocal = .error (.notFound c.stderrText) := by
  rw [judgeLocal, if_neg (fun hmarker => hkey (occursIn_keyAddedMarker_iff.1 hmarker)),
    if_pos (any_notFoundMarkers_iff.2 h)]

theorem judgeLocal_of_neither (hkey : ¬ ConfirmsKey c.stdoutText)
    (hfound : ¬ SaysNotFound c.stderrText) :
    c.judgeLocal =
      if c.stderr = [] then .ok (.bytes c.stdout)
      else .error (.failed c.status c.stderrText) := by
  rw [judgeLocal, if_neg (fun hmarker => hkey (occursIn_keyAddedMarker_iff.1 hmarker)),
    if_neg (fun hmarker => hfound (any_notFoundMarkers_iff.1 hmarker))]
  simp only [List.isEmpty_iff]

/-- An executable counts as not found exactly if no key is confirmed and the error text says so, and
this text is told.  Any other failure tells an error text that is not empty and does not say so.  A
command that succeeds gives its output byte for byte, and if it wrote to its error stream, the
output confirms a key. -/
theorem judgeLocal_told_by_texts (c : Capture) :
    (∀ text, c.judgeLocal = .error (.notFound text) ↔
      ¬ ConfirmsKey c.stdoutText ∧ SaysNotFound c.stderrText ∧ text = c.stderrText) ∧
    (∀ status message, c.judgeLocal = .error (.failed status message) →
      status = c.status ∧ message = c.stderrText ∧ message ≠ "" ∧ ¬ SaysNotFound message) ∧
    ∀ output, c.judgeLocal = .ok output →
      output = .bytes c.stdout ∧ (c.stderr ≠ [] → ConfirmsKey output.toText) := by
  by_cases hkey : ConfirmsKey c.stdoutText
  · rw [judgeLocal_of_confirmsKey hkey]
    refine ⟨by simp [hkey], nofun, ?_⟩
    intro output houtput
    obtain rfl := Except.ok.inj houtput
    exact ⟨rfl, fun _ => hkey⟩
  by_cases hfound : SaysNotFound c.stderrText
  · rw [judgeLocal_of_saysNotFound hkey hfound]
    refine ⟨?_, nofun, nofun⟩
    intro text
    simp [hkey, hfound, eq_comm]
  rw [judgeLocal_of_neither hkey hfound]
  refine ⟨?_, ?_, ?_⟩
  · intro text
    split <;> simp [hfound]
  · intro status message hfailed
    split at hfailed
    · cases hfailed
    · rename_i hwritten
      obtain ⟨rfl, rfl⟩ : c.status = status ∧ c.stderrText = message := by simpa using hfailed
      have hne : c.stderrText ≠ "" := fun hempty => hwritten (decodeLossy_eq_empty_iff.1 hempty)
      exact ⟨rfl, rfl, hne, hfound⟩
  · intro output houtput
    split at houtput
    · rename_i hempty
      obtain rfl := Except.ok.inj houtput
      exact ⟨rfl, fun hwritten => absurd hempty hwritten⟩
    · cases houtput

/-- A complaint between bytes that are no text. -/
def brokenComplaint : Capture where
  status := 127
  stdout := []
  stderr := [0xC3] ++ encode "command not found" ++ [0xE2, 0x82]

/-- It is judged by what it says, and told with its invalid parts replaced. -/
theorem judgeLocal_told_by_texts_broken :
    brokenComplaint.judgeLocal = .error (.notFound "\uFFFDcommand not found\uFFFD") := by
  have htext : brokenComplaint.stderrText = "\uFFFDcommand not found\uFFFD" := by decide +kernel
  have hkey : ¬ ConfirmsKey brokenComplaint.stdoutText := by
    have hempty : brokenComplaint.stdoutText = "" := decodeLossy_eq_empty_iff.2 rfl
    rw [ConfirmsKey, hempty]
    exact fun hmarker => absurd (List.infix_nil.1 hmarker) (by decide)
  have hsays : SaysNotFound "\uFFFDcommand not found\uFFFD" :=
    .inl ⟨['\uFFFD'], ['\uFFFD'], rfl⟩
  exact ((judgeLocal_told_by_texts brokenComplaint).1 _).2 ⟨hkey, htext ▸ hsays, htext.symm⟩

end TestRig.Command.Capture
