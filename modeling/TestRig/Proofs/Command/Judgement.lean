/-
  TestRig.Proofs.Command.Judgement

  Outputs as lines, and when a remote command passes.  Read back as lines, a command
  passes with status 0 and a blank error text; read back as bytes, only with an empty
  error stream.  So the verdict depends on the read mode for just those commands that
  exit with status 0 and write blanks to their error stream (`verdict_modeFree_iff`).
-/
import TestRig.Command.Capture
import TestRig.Proofs.Text.Blank
import TestRig.Proofs.Text.Decoding

namespace TestRig.Command

open Text

/-! ## Outputs as lines -/

namespace Output

/-- The output is text: lines, or bytes that are the encoding of a text. -/
def IsText : Output → Prop
  | .bytes content => ∃ text, content = encode text
  | .lines _ => True

theorem lines?_encode (text : String) :
    (Output.bytes (encode text)).lines? = some (splitLines text) := by
  rw [lines?, decode?_encode, Option.map_some]

/-- Cutting text that is cut into lines already changes nothing. -/
theorem lines?_splitLines (text : String) :
    (Output.lines (splitLines text)).lines? = some (splitLines text) := by
  have hlines : (splitLines text).map String.toList = trimmedLines (splitAt '\n' text.toList) := by
    rw [splitLines, List.map_map]
    exact (List.map_congr_left fun _ _ => String.toList_ofList).trans (List.map_id _)
  rw [lines?, hlines, trimmedLines_trimmedLines]
  rfl

theorem isSome_lines?_iff {output : Output} : output.lines?.isSome = true ↔ output.IsText := by
  cases output with
  | bytes content =>
    rw [lines?, Option.isSome_map, Option.isSome_iff_exists]
    exact exists_congr fun _ => decode?_eq_some_iff
  | lines content => simp [lines?, IsText]

/-- Text has no lines exactly if it is blank. -/
theorem lines?_eq_nil_iff {output : Output} (h : output.IsText) :
    output.lines? = some [] ↔ isBlankText output.toText = true := by
  cases output with
  | bytes content =>
    obtain ⟨text, rfl⟩ := h
    rw [lines?_encode, Option.some.injEq, splitLines_eq_nil_iff, toText, decodeLossy_encode]
  | lines content =>
    rw [lines?, Option.some.injEq, List.map_eq_nil_iff, trimmedLines_eq_nil_iff, toText,
      isBlankText_joinLines, List.all_eq_true, List.forall_mem_map]
    exact forall₂_congr fun _ _ => isBlankText_iff.symm

end Output

/-! ## Remote verdicts -/

namespace Capture

variable {c : Capture} {mode : ReadMode}

/-- The command counts as successful when its output is read back in this mode. -/
def Passes (c : Capture) (mode : ReadMode) : Prop := ∃ output, c.judgeRemote mode = .ok output

/-- A command passes exactly with status 0 and an empty error text. -/
theorem passes_iff : c.Passes mode ↔ c.status = 0 ∧ c.readErrorText mode = "" := by
  unfold Passes judgeRemote
  simp only [String.isEmpty_iff]
  by_cases hstatus : c.status = 0
  · by_cases herror : c.readErrorText mode = ""
    · simp [hstatus, herror]
    · simp [hstatus, herror]
  · simp [hstatus]

theorem passes_lines_iff :
    c.Passes .lines ↔ c.status = 0 ∧ isBlankText c.stderrText = true := by
  rw [passes_iff, readErrorText, joinLines_splitLines_eq_empty_iff]

theorem passes_raw_iff {limit : Option UInt64} :
    c.Passes (.raw limit) ↔ c.status = 0 ∧ c.stderr = [] := by
  rw [passes_iff, readErrorText, stderrText, decodeLossy_eq_empty_iff]

/-- An empty error stream is blank, so what passes as bytes passes as lines. -/
theorem Passes.lines {limit : Option UInt64} (h : c.Passes (.raw limit)) : c.Passes .lines := by
  obtain ⟨hstatus, hempty⟩ := passes_raw_iff.1 h
  refine passes_lines_iff.2 ⟨hstatus, ?_⟩
  rw [stderrText, hempty]
  decide

/-- The status and the error stream decide in each mode whether a command passes.  All modes agree
unless the status is 0 and the error stream holds nothing but blanks, and at least one. -/
theorem verdict_modeFree_iff (c : Capture) :
    (c.Passes .lines ↔ c.status = 0 ∧ isBlankText c.stderrText = true) ∧
    (∀ limit, c.Passes (.raw limit) ↔ c.status = 0 ∧ c.stderr = []) ∧
    ((∀ mode mode', c.Passes mode ↔ c.Passes mode') ↔
      ¬ (c.status = 0 ∧ isBlankText c.stderrText = true ∧ c.stderr ≠ [])) := by
  refine ⟨passes_lines_iff, fun limit => passes_raw_iff, ?_, ?_⟩
  · rintro hagree ⟨hstatus, hblank, hwritten⟩
    have hlines : c.Passes .lines := passes_lines_iff.2 ⟨hstatus, hblank⟩
    exact hwritten (passes_raw_iff.1 ((hagree .lines (.raw none)).1 hlines)).2
  · intro hnot
    -- every mode passes what the mode of lines passes
    have hlines : ∀ mode, c.Passes mode ↔ c.Passes .lines := by
      intro mode
      cases mode with
      | lines => rfl
      | raw limit =>
        refine ⟨Passes.lines, fun h => ?_⟩
        obtain ⟨hstatus, hblank⟩ := passes_lines_iff.1 h
        exact passes_raw_iff.2
          ⟨hstatus, Classical.byContradiction fun hwritten => hnot ⟨hstatus, hblank, hwritten⟩⟩
    exact fun mode mode' => (hlines mode).trans (hlines mode').symm

/-- A command that exits with status 0, after it has written `ok` and a line feed to its output and
a line feed to its error stream. -/
def blankErrorText : Capture := ⟨0, encode "ok\n", encode "\n", Duration.zero⟩

/-- With status 0 and a blank error text a command passes as lines and fails as bytes. -/
theorem blank_error_text_splits_verdict :
    blankErrorText.status = 0 ∧ isBlankText blankErrorText.stderrText = true ∧
      blankErrorText.Passes .lines ∧ ¬ blankErrorText.Passes (.raw none) := by
  have hblank : isBlankText blankErrorText.stderrText = true := by
    rw [Capture.stderrText, blankErrorText, decodeLossy_encode]
    decide
  refine ⟨rfl, hblank, passes_lines_iff.2 ⟨rfl, hblank⟩, fun hpasses => ?_⟩
  exact List.cons_ne_nil _ _ (passes_raw_iff.1 hpasses).2

end Capture

end TestRig.Command
