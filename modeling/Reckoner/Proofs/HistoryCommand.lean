import Reckoner.Proofs.Text.Case
import Reckoner.Session

namespace Reckoner.Session

open Text (isBlank stripChars strip lower)

section

variable {settings : Settings} {history : History} {line : String}

theorem isHistoryCommand_iff {expression : String} :
    isHistoryCommand settings expression ↔ lower expression = lower settings.historyCommand := by
  rw [isHistoryCommand, beq_iff_eq]

-- An answer begins with a word that no line of a listing begins with.
theorem answerTo_ne_listing (outcome : Outcome) (history : History) :
    [answerTo outcome] ≠ listing history := by
  unfold listing
  split
  · cases outcome <;> simp [answerTo, String.ext_iff]
  · cases outcome <;> simp [answerTo, String.ext_iff]

theorem handleLine_of_command (hcommand : isHistoryCommand settings (strip line)) :
    handleLine settings history line = ⟨listing history, [], history⟩ := by
  rw [handleLine, if_pos hcommand]

theorem isHistoryCommand_of_listing {other : History}
    (hlisting : (handleLine settings history line).events = listing other) :
    isHistoryCommand settings (strip line) := by
  cases hcommand : isHistoryCommand settings (strip line) with
  | true => rfl
  | false =>
      rw [handleLine, hcommand, if_neg Bool.false_ne_true] at hlisting
      exact absurd hlisting (answerTo_ne_listing _ _)

theorem strip_surrounded {front back : String} (hfront : ∀ c ∈ front.toList, isBlank c)
    (hback : ∀ c ∈ back.toList, isBlank c) (text : String) :
    strip (front ++ text ++ back) = strip text := by
  rw [strip, strip, String.toList_append, String.toList_append,
    Text.stripChars_append_blanks hback, Text.stripChars_blanks_append hfront]

end

-- The word for the history works, with any blanks around it, if it has none of its
-- own. The line that is compared with it never has any, so that a word with blanks
-- at its ends is out of reach.
theorem history_command_lists (settings : Settings) (history : History) :
    (∀ front back : String, (∀ c ∈ front.toList, isBlank c) → (∀ c ∈ back.toList, isBlank c) →
      (handleLine settings history (front ++ settings.historyCommand ++ back) =
          ⟨listing history, [], history⟩ ↔
        strip settings.historyCommand = settings.historyCommand)) ∧
    ∀ line other, (handleLine settings history line).events = listing other →
      strip settings.historyCommand = settings.historyCommand ∧
        lower (strip line) = lower settings.historyCommand := by
  have hreached : ∀ line other, (handleLine settings history line).events = listing other →
      strip settings.historyCommand = settings.historyCommand ∧
        lower (strip line) = lower settings.historyCommand := by
    intro line other hlisting
    have hsame := isHistoryCommand_iff.mp (isHistoryCommand_of_listing hlisting)
    exact ⟨Text.strip_eq_self_of_lower hsame, hsame⟩
  refine ⟨fun front back hfront hback => ⟨fun hlists => ?_, fun hbare => ?_⟩, hreached⟩
  · exact (hreached _ history (congrArg Report.events hlists)).1
  · apply handleLine_of_command
    rw [strip_surrounded hfront hback, hbare]
    exact isHistoryCommand_iff.mpr rfl

theorem history_command_lists_default :
    let history : History := ⟨["1+1 = 2.0"]⟩
    (∀ c ∈ "\t ".toList, isBlank c) ∧ (∀ c ∈ "\r\n".toList, isBlank c) ∧
      handleLine Settings.default history ("\t " ++ "history" ++ "\r\n") =
        ⟨[.write "Calculation History:", .write "1. 1+1 = 2.0"], [], history⟩ := by
  intro history
  have hfront : ∀ c ∈ "\t ".toList, isBlank c := List.all_eq_true.mp (by decide)
  have hback : ∀ c ∈ "\r\n".toList, isBlank c := List.all_eq_true.mp (by decide)
  have hbare : strip "history" = "history" := by decide
  refine ⟨hfront, hback, ?_⟩
  exact ((history_command_lists Settings.default history).1 _ _ hfront hback).mpr hbare

-- A word with a blank before it is accepted, and typed as it stands it is taken for
-- an expression.
theorem padded_command_unreachable :
    ∃ settings, Settings.ofForm [("history_command", .text " history")] = .ok settings ∧
      settings.historyCommand = " history" ∧
      ∀ history other, (handleLine settings history " history").events ≠ listing other := by
  refine ⟨_, rfl, rfl, fun history other hlisting => ?_⟩
  have hcommand := isHistoryCommand_of_listing hlisting
  revert hcommand
  decide

end Reckoner.Session
