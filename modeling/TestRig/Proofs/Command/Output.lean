/-
  TestRig.Proofs.Command.Output

  The lines of an output are the same whether it is kept as lines or as bytes.  Kept as
  bytes, lines are joined, encoded, decoded and cut again; each of these steps undoes
  another one (`lines?_toBytes`).
-/
import TestRig.Proofs.Command.Judgement
import TestRig.Proofs.Text.Lines

namespace TestRig.Command.Output

open Text

theorem lines?_lines (lines : List String) :
    (Output.lines lines).lines? = some ((lines.map trim).filter (· ≠ "")) := by
  rw [lines?, map_ofList_trimmedLines]

/-- Lines that are kept as bytes are found again. -/
theorem lines?_toBytes {lines : List String} (hlines : ∀ line ∈ lines, '\n' ∉ line.toList) :
    (Output.bytes (Output.lines lines).toBytes).lines? =
      some ((lines.map trim).filter (· ≠ "")) := by
  rw [toBytes, lines?_encode, splitLines_joinLines hlines]

theorem toText_eq_decodeLossy (output : Output) : output.toText = decodeLossy output.toBytes := by
  cases output with
  | bytes content => rfl
  | lines content => rw [toText, toBytes, decodeLossy_encode]

theorem lines?_bytes_eq_none_iff {content : Bytes} :
    (Output.bytes content).lines? = none ↔ ¬ ∃ text, content = encode text := by
  have htext : (Output.bytes content).lines?.isSome = true ↔ ∃ text, content = encode text :=
    isSome_lines?_iff
  rw [← htext, Bool.not_eq_true, Option.isSome_eq_false_iff, Option.isNone_iff_eq_none]

/-- An output has the same lines as lines and as bytes: its own, trimmed and without the empty ones.
The lines of a text are neither empty nor untrimmed, cutting them again changes nothing, and a line
feed between two texts keeps their lines apart.  The text of an output is that of its bytes, and
only bytes that are no text have no lines. -/
theorem lines_representationFree :
    (∀ lines : List String, (∀ line ∈ lines, '\n' ∉ line.toList) →
      (Output.lines lines).lines? = some ((lines.map trim).filter (· ≠ "")) ∧
      (Output.bytes (Output.lines lines).toBytes).lines? =
        some ((lines.map trim).filter (· ≠ ""))) ∧
    (∀ text, (∀ line ∈ splitLines text, line ≠ "" ∧ trim line = line ∧ '\n' ∉ line.toList) ∧
      splitLines (joinLines (splitLines text)) = splitLines text) ∧
    (∀ a b, splitLines (a ++ "\n" ++ b) = splitLines a ++ splitLines b) ∧
    (∀ output : Output, output.toText = decodeLossy output.toBytes) ∧
    ∀ content, (Output.bytes content).lines? = none ↔ ¬ ∃ text, content = encode text := by
  refine ⟨?_, ?_, splitLines_append, toText_eq_decodeLossy, fun _ => lines?_bytes_eq_none_iff⟩
  · intro lines hlines
    exact ⟨lines?_lines lines, lines?_toBytes hlines⟩
  · intro text
    exact ⟨fun line hline => of_mem_splitLines hline, splitLines_joinLines_splitLines text⟩

/-- Carriage returns and separators of other scripts are trimmed, in whichever form. -/
theorem lines_representationFree_separators :
    (Output.lines [" a\rb\r", "\u2028", "\u0085c\u3000"]).lines? = some ["a\rb", "c"] ∧
    (Output.bytes (Output.lines [" a\rb\r", "\u2028", "\u0085c\u3000"]).toBytes).lines? =
      some ["a\rb", "c"] := by
  have hlines : ∀ line ∈ [" a\rb\r", "\u2028", "\u0085c\u3000"], '\n' ∉ line.toList := by decide
  have htrimmed : ([" a\rb\r", "\u2028", "\u0085c\u3000"].map trim).filter (· ≠ "") =
      ["a\rb", "c"] := by decide
  have hboth := lines_representationFree.1 _ hlines
  rwa [htrimmed] at hboth

end TestRig.Command.Output
