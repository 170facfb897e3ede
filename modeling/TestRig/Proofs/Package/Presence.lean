/-
  TestRig.Proofs.Package.Presence

  Whether a package is there.  Keywords and packages are searched for in the lines of an
  output; this finds exactly what the text holds of which they are the lines
  (`keywords_found_in_lines_iff`).  The check for a package and the listing of all packages
  run one and the same command, and what the check answers is told by the listing
  (`check_told_by_listing`).
-/
import TestRig.Proofs.Command.Exchange
import TestRig.Proofs.Package.Replies
import TestRig.Proofs.Text.Finding

namespace TestRig.Package

open Command (Dialogue Output Reply hasKeywords)
open Text

/-! ## Searching lines -/

variable {names lines keywords : List String} {expected word : String}

theorem hasKeywords_iff :
    hasKeywords lines keywords = true ↔
      ∀ word ∈ keywords, ∃ line ∈ lines, word.toList <:+: trimChars line.toList := by
  simp only [hasKeywords, List.all_eq_true, List.any_eq_true, occursIn_iff]

theorem installed_ofInstalled_iff :
    (Presence.ofInstalled names expected).installed = true ↔
      ∃ name ∈ names, expected.toList <:+: name.toList := by
  have hany : (names.any fun name => occursIn expected.toList name.toList) = true ↔
      ∃ name ∈ names, expected.toList <:+: name.toList := by
    simp only [List.any_eq_true, occursIn_iff]
  rw [Presence.ofInstalled, ← hany]
  split
  · rename_i hfound
    exact iff_of_true rfl hfound
  · rename_i hmissing
    exact iff_of_false Bool.false_ne_true hmissing

/-- Keywords are found in the lines of a text exactly if all of them stand in the text, and a keyword
counts as installed by these lines exactly if it stands in the text. -/
theorem keywords_found_in_lines_iff (text : String) :
    (∀ keywords : List String, (∀ word ∈ keywords, IsKeyword word) →
      (hasKeywords (splitLines text) keywords = true ↔
        ∀ word ∈ keywords, word.toList <:+: text.toList)) ∧
    ∀ word, IsKeyword word →
      ((Presence.ofInstalled (splitLines text) word).installed = true ↔
        word.toList <:+: text.toList) := by
  refine ⟨?_, ?_⟩
  · intro keywords hkeywords
    rw [hasKeywords_iff]
    refine forall₂_congr fun word hmem => ?_
    have hword : IsKeyword word := hkeywords word hmem
    rw [← hword.exists_mem_splitLines_iff]
    -- the lines are trimmed a second time, which hides no keyword
    simp only [hword.infix_trimChars_iff]
  · intro word hword
    rw [installed_ofInstalled_iff, hword.exists_mem_splitLines_iff]

/-- Keywords with blanks and a carriage return inside them, in lines that are trimmed. -/
theorem keywords_found_in_lines_iff_blanks_inside :
    hasKeywords (splitLines " \u2003x a\rb  c\r\n\n\tfoo-1.2 \u0085\n") ["a\rb  c", "foo"] = true ∧
    (Presence.ofInstalled (splitLines " \u2003x a\rb  c\r\n\n\tfoo-1.2 \u0085\n")
      "c foo").installed = false := by
  have hwords : ∀ word ∈ ["a\rb  c", "foo"], IsKeyword word := by decide
  have hacross : IsKeyword "c foo" := by decide
  refine ⟨?_, ?_⟩
  · refine ((keywords_found_in_lines_iff _).1 _ hwords).2 ?_
    intro word hword
    rcases List.mem_pair.1 hword with rfl | rfl
    · exact ⟨" \u2003x ".toList, "\r\n\n\tfoo-1.2 \u0085\n".toList, by decide⟩
    · exact ⟨" \u2003x a\rb  c\r\n\n\t".toList, "-1.2 \u0085\n".toList, by decide⟩
  · rw [Bool.eq_false_iff, ne_eq, (keywords_found_in_lines_iff _).2 _ hacross, ← occursIn_iff]
    decide

/-! ## Checking and listing -/

/-- A listing names the lines of the output, and an output that is no text has none. -/
theorem names_ofOutput (output : Output) : (Listing.ofOutput output).names = linesOf output := by
  unfold Listing.ofOutput linesOf
  cases output.lines? with
  | none => rfl
  | some lines => rfl

variable {reply : Reply}

/-- Where the packages could be listed, the check is a search in the listing. -/
theorem presence_of_listed {listing : Listing} (h : Listing.ofReply reply = .ok listing) :
    Presence.ofReply expected reply = .ok (.ofInstalled listing.names expected) := by
  cases reply with
  | ok output =>
    obtain rfl : Listing.ofOutput output = listing := Except.ok.inj h
    rw [names_ofOutput]
    rfl
  | error e =>
    cases hmatch : isNoMatch e with
    | true =>
      -- a search without a match is listed as no packages, and the check takes it for a failure
      rw [Listing.ofReply, readReply_excused (if_pos hmatch)] at h
      obtain rfl := Except.ok.inj h
      exact readReply_excused (if_pos (isCommandFailure_of_isNoMatch hmatch))
    | false =>
      rw [listing_ofReply_eq_error_iff.2 ⟨e, rfl, hmatch, rfl⟩] at h
      cases h

/-- Where the packages could not be listed, the check excuses the failures that the command reports
itself. -/
theorem presence_of_refused {error : Error} (h : Listing.ofReply reply = .error error) :
    ∃ e, error = .command e ∧ Presence.ofReply expected reply =
      if e.isCommandFailure then .ok .notFound else .error error := by
  obtain ⟨e, rfl, -, rfl⟩ := listing_ofReply_eq_error_iff.1 h
  refine ⟨e, rfl, ?_⟩
  cases hfailure : e.isCommandFailure with
  | true => exact readReply_excused (if_pos hfailure)
  | false => exact readReply_eq_error_iff.2 ⟨e, rfl, by simp [hfailure], rfl⟩

/-- The check for a package and the listing of all packages run the same command.  With the same
reply to it, a package is installed exactly if its name stands in one of the listed names; where
there is no listing because the command ran and failed, the package is not installed; and any other
failure is that of both. -/
theorem check_told_by_listing {σ : Type} (t : Templates) (expected : String)
    (respond : σ → String → Reply × σ) (s : σ) :
    let checked := ((isInstalled t expected).hold respond s).1
    (isInstalled t expected).exchanges respond s = [⟨t.rpmList, (respond s t.rpmList).1⟩] ∧
    (list t "").exchanges respond s = [⟨t.rpmList, (respond s t.rpmList).1⟩] ∧
    match ((list t "").hold respond s).1 with
    | .ok listing => ∃ p, checked = .ok p ∧
        (p.installed = true ↔ ∃ name ∈ listing.names, expected.toList <:+: name.toList)
    | .error error => ∃ e, error = .command e ∧
        checked = if e.isCommandFailure then .ok .notFound else .error error := by
  -- no part of a name is asked for, so the listing is of all packages
  have hcommand : listCommand t "" = t.rpmList := if_pos (by decide)
  intro checked
  have hchecked : checked = Presence.ofReply expected (respond s t.rpmList).1 := by
    show ((isInstalled t expected).hold respond s).1 = _
    rw [isInstalled_eq, Dialogue.hold_ask, Dialogue.hold_done]
  have hlisted : ((list t "").hold respond s).1 = Listing.ofReply (respond s t.rpmList).1 := by
    rw [list_eq, Dialogue.hold_ask, Dialogue.hold_done, hcommand]
  refine ⟨?_, ?_, ?_⟩
  · rw [isInstalled_eq, Dialogue.exchanges_ask, Dialogue.exchanges_done]
  · rw [list_eq, Dialogue.exchanges_ask, Dialogue.exchanges_done, hcommand]
  · rw [hchecked, hlisted]
    cases hlisting : Listing.ofReply (respond s t.rpmList).1 with
    | ok listing => exact ⟨_, presence_of_listed hlisting, installed_ofInstalled_iff⟩
    | error error => exact presence_of_refused hlisting

end TestRig.Package
