import Reckoner.Session

namespace Reckoner.Session

-- A line for the expression prompt, and the answers to the question after it.
-- Only the last of them is one.
structure Round where
  line : String
  refused : List String
  answer : String

-- How the input comes to its end for the session: before an expression, before
-- an answer, or by a no, behind which lines may be left.
inductive Closing
  | beforeExpression
  | beforeAnswer (line : String) (refused : List String)
  | stopped (round : Round)

-- The rounds that were answered by a yes, and what came after them.
structure Dialogue where
  rounds : List Round
  closing : Closing

def isYes (line : String) : Prop := Text.lower (Text.strip line) = "y"

def isNo (line : String) : Prop := Text.lower (Text.strip line) = "n"

def isRefused (line : String) : Prop := ¬isYes line ∧ ¬isNo line

namespace Round

def lines (round : Round) : List String := round.line :: round.refused ++ [round.answer]

end Round

namespace Closing

def lines : Closing → List String
  | .beforeExpression => []
  | .beforeAnswer line refused => line :: refused
  | .stopped round => round.lines

-- The line that was read for the expression prompt, if there was one.
def expressions : Closing → List String
  | .beforeExpression => []
  | .beforeAnswer line _ => [line]
  | .stopped round => [round.line]

def Valid : Closing → Prop
  | .beforeExpression => True
  | .beforeAnswer _ refused => ∀ line ∈ refused, isRefused line
  | .stopped round => (∀ line ∈ round.refused, isRefused line) ∧ isNo round.answer

end Closing

namespace Dialogue

def lines (dialogue : Dialogue) : List String :=
  dialogue.rounds.flatMap Round.lines ++ dialogue.closing.lines

def expressions (dialogue : Dialogue) : List String :=
  dialogue.rounds.map Round.line ++ dialogue.closing.expressions

structure Valid (dialogue : Dialogue) : Prop where
  refused : ∀ round ∈ dialogue.rounds, ∀ line ∈ round.refused, isRefused line
  agreed : ∀ round ∈ dialogue.rounds, isYes round.answer
  closing : dialogue.closing.Valid

end Dialogue

section

variable (settings : Settings)

-- Each refused answer is read at the question and met with one refusal.
def refusals (refused : List String) : List Event :=
  refused.flatMap fun _ =>
    [.prompt settings.continuePrompt, .write "Error: Please enter only 'y' or 'n'."]

-- What is seen from the expression prompt to the last time the question is put.
def asking (history : History) (line : String) (refused : List String) : List Event :=
  .prompt settings.prompt :: (handleLine settings history line).events ++
    refusals settings refused ++ [.prompt settings.continuePrompt]

def Closing.events (history : History) : Closing → List Event
  | .beforeExpression => [.prompt settings.prompt, .write ""]
  | .beforeAnswer line refused => asking settings history line refused ++ [.write ""]
  | .stopped round => asking settings history round.line round.refused

-- Every line is handled with the history that the lines before it have left.
def eventsFrom (history : History) : List Round → Closing → List Event
  | [], closing => closing.events settings history
  | round :: rest, closing =>
      asking settings history round.line round.refused ++
        eventsFrom (handleLine settings history round.line).history rest closing

def Dialogue.events (history : History) (dialogue : Dialogue) : List Event :=
  eventsFrom settings history dialogue.rounds dialogue.closing

-- What a line for the expression prompt adds to the history.
def addition? (line : String) : Option String :=
  if isHistoryCommand settings (Text.strip line) then none
  else match evaluate (Text.strip line) with
    | .result expression value => some (expression ++ " = " ++ value.text)
    | .failure _ _ _ => none

theorem entries_handleLine (history : History) (line : String) :
    (handleLine settings history line).history.entries =
      history.entries ++ [line].filterMap (addition? settings) := by
  unfold handleLine
  cases hcommand : isHistoryCommand settings (Text.strip line) with
  | true => simp [addition?, hcommand]
  | false =>
      cases houtcome : evaluate (Text.strip line) with
      | result expression value =>
          simp [addition?, hcommand, houtcome, History.recordOutcome, History.record, Outcome.entry]
      | failure expression kind message =>
          simp [addition?, hcommand, houtcome, History.recordOutcome]

theorem answer?_cases (line : String) :
    answer? line = some true ∧ isYes line ∨ answer? line = some false ∧ isNo line ∨
      answer? line = none ∧ isRefused line := by
  unfold answer? isRefused isYes isNo
  dsimp only
  split
  · rename_i hyes
    exact .inl ⟨rfl, hyes⟩
  · rename_i hyes
    split
    · rename_i hno
      exact .inr (.inl ⟨rfl, hno⟩)
    · rename_i hno
      exact .inr (.inr ⟨rfl, hyes, hno⟩)

-- The question is put again for as long as no line answers it.
theorem ask_cases (lines : List String) :
    (∀ line ∈ lines, isRefused line) ∧
        ask settings lines =
          ⟨none, [], refusals settings lines ++ [.prompt settings.continuePrompt]⟩ ∨
      ∃ refused answer rest, lines = refused ++ answer :: rest ∧
        (∀ line ∈ refused, isRefused line) ∧
        ∃ yes, (if yes then isYes answer else isNo answer) ∧
          ask settings lines =
            ⟨some yes, rest, refusals settings refused ++ [.prompt settings.continuePrompt]⟩ := by
  induction lines with
  | nil => exact .inl ⟨by simp, rfl⟩
  | cons line rest ih =>
      rcases answer?_cases line with ⟨hanswer, hyes⟩ | ⟨hanswer, hno⟩ | ⟨hanswer, hrefused⟩
      · exact .inr ⟨[], line, rest, rfl, by simp, true, hyes, by simp [ask, hanswer, refusals]⟩
      · exact .inr ⟨[], line, rest, rfl, by simp, false, hno, by simp [ask, hanswer, refusals]⟩
      · rcases ih with ⟨hall, hask⟩ | ⟨refused, answer, later, rfl, hall, yes, hyes, hask⟩
        · refine .inl ⟨List.forall_mem_cons.mpr ⟨hrefused, hall⟩, ?_⟩
          simp [ask, hanswer, hask, refusals, refusal]
        · refine .inr ⟨line :: refused, answer, later, rfl,
            List.forall_mem_cons.mpr ⟨hrefused, hall⟩, yes, hyes, ?_⟩
          simp [ask, hanswer, hask, refusals, refusal]

-- Behind an expression the conversation goes on as the question is answered.
theorem converse_answer (history : History) (lines : List String) :
    converse settings .answer history lines =
      match ask settings lines with
      | ⟨none, unread, events⟩ => ⟨⟨events ++ [.write ""], [], history⟩, unread⟩
      | ⟨some false, unread, events⟩ => ⟨⟨events, [], history⟩, unread⟩
      | ⟨some true, unread, events⟩ =>
          let later := converse settings .expression history unread
          { later with report := later.report.before events [] } := by
  induction lines with
  | nil => rfl
  | cons line rest ih =>
      simp only [converse, react, ask]
      cases hanswer : answer? line with
      | none =>
          simp only [Report.before, ih]
          rcases ask settings rest with ⟨_ | _ | _, unread, events⟩ <;> rfl
      | some yes => cases yes <;> rfl

-- An expression and the question after it, up to what the answer leads to.
theorem converse_expression (history : History) (line : String) (rest : List String) :
    converse settings .expression history (line :: rest) =
      let report := handleLine settings history line
      match ask settings rest with
      | ⟨none, unread, events⟩ =>
          ⟨⟨.prompt settings.prompt :: report.events ++ events ++ [.write ""], report.records,
            report.history⟩, unread⟩
      | ⟨some false, unread, events⟩ =>
          ⟨⟨.prompt settings.prompt :: report.events ++ events, report.records, report.history⟩,
            unread⟩
      | ⟨some true, unread, events⟩ =>
          let later := converse settings .expression report.history unread
          ⟨later.report.before (.prompt settings.prompt :: report.events ++ events) report.records,
            later.unread⟩ := by
  simp only [converse, react, Phase.prompt, converse_answer, Report.before]
  rcases ask settings rest with ⟨_ | _ | _, unread, events⟩ <;> simp

-- What a conversation was about: the lines that it took, what was seen, and what
-- became of the history.
structure Describes (history : History) (lines : List String) (dialogue : Dialogue)
    (conversation : Conversation) : Prop where
  valid : dialogue.Valid
  lines : lines = dialogue.lines ++ conversation.unread
  unread : conversation.unread ≠ [] → ∃ round, dialogue.closing = .stopped round
  events : conversation.report.events = dialogue.events settings history
  entries : conversation.report.history.entries =
    history.entries ++ dialogue.expressions.filterMap (addition? settings)

variable {settings} {history : History} {line answer : String} {refused unread : List String}

theorem describes_nil :
    Describes settings history [] ⟨[], .beforeExpression⟩
      (converse settings .expression history []) where
  valid := ⟨by simp, by simp, trivial⟩
  lines := rfl
  unread h := absurd rfl h
  events := rfl
  entries := by simp [converse, Dialogue.expressions, Closing.expressions]

theorem describes_beforeAnswer (hall : ∀ line ∈ refused, isRefused line)
    (hask : ask settings refused =
      ⟨none, [], refusals settings refused ++ [.prompt settings.continuePrompt]⟩) :
    Describes settings history (line :: refused) ⟨[], .beforeAnswer line refused⟩
      (converse settings .expression history (line :: refused)) := by
  rw [converse_expression, hask]
  constructor
  · exact ⟨by simp, by simp, hall⟩
  · simp [Dialogue.lines, Closing.lines]
  · exact fun h => absurd rfl h
  · simp [Dialogue.events, eventsFrom, Closing.events, asking]
  · have hexpressions : Dialogue.expressions ⟨[], .beforeAnswer line refused⟩ = [line] := rfl
    rw [hexpressions, ← entries_handleLine]

theorem describes_stopped (hall : ∀ line ∈ refused, isRefused line) (hno : isNo answer)
    (hask : ask settings (refused ++ answer :: unread) =
      ⟨some false, unread, refusals settings refused ++ [.prompt settings.continuePrompt]⟩) :
    Describes settings history (line :: (refused ++ answer :: unread))
      ⟨[], .stopped ⟨line, refused, answer⟩⟩
      (converse settings .expression history (line :: (refused ++ answer :: unread))) := by
  rw [converse_expression, hask]
  constructor
  · exact ⟨by simp, by simp, hall, hno⟩
  · simp [Dialogue.lines, Closing.lines, Round.lines]
  · exact fun _ => ⟨_, rfl⟩
  · simp [Dialogue.events, eventsFrom, Closing.events, asking]
  · have hexpressions :
        Dialogue.expressions ⟨[], .stopped ⟨line, refused, answer⟩⟩ = [line] := rfl
    rw [hexpressions, ← entries_handleLine]

-- A yes puts its round before those of what comes after it.
theorem describes_round {later : Dialogue} (hall : ∀ line ∈ refused, isRefused line)
    (hyes : isYes answer)
    (hask : ask settings (refused ++ answer :: unread) =
      ⟨some true, unread, refusals settings refused ++ [.prompt settings.continuePrompt]⟩)
    (hlater : Describes settings (handleLine settings history line).history unread later
      (converse settings .expression (handleLine settings history line).history unread)) :
    Describes settings history (line :: (refused ++ answer :: unread))
      ⟨⟨line, refused, answer⟩ :: later.rounds, later.closing⟩
      (converse settings .expression history (line :: (refused ++ answer :: unread))) := by
  obtain ⟨hvalid, hlines, hunread, hevents, hentries⟩ := hlater
  rw [converse_expression, hask]
  simp only
  generalize converse settings .expression (handleLine settings history line).history unread =
    conversation at hlines hunread hevents hentries
  constructor
  · exact ⟨List.forall_mem_cons.mpr ⟨hall, hvalid.refused⟩,
      List.forall_mem_cons.mpr ⟨hyes, hvalid.agreed⟩, hvalid.closing⟩
  · rw [hlines]
    simp [Dialogue.lines, Round.lines]
  · exact hunread
  · simp [Report.before, hevents, Dialogue.events, eventsFrom, asking]
  · rw [entries_handleLine] at hentries
    rw [Report.before, hentries, List.append_assoc, ← List.filterMap_append]
    rfl

-- Every round takes at least two lines, so that the input cannot last.
theorem exists_describes (settings : Settings) (history : History) (lines : List String) :
    ∃ dialogue, Describes settings history lines dialogue
      (converse settings .expression history lines) := by
  match lines with
  | [] => exact ⟨_, describes_nil⟩
  | line :: rest =>
      rcases ask_cases settings rest with
        ⟨hall, hask⟩ | ⟨refused, answer, unread, hrest, hall, yes, hanswer, hask⟩
      · exact ⟨_, describes_beforeAnswer hall hask⟩
      · have hlength : unread.length < rest.length := by simp [hrest]; omega
        cases yes with
        | false =>
            subst hrest
            exact ⟨_, describes_stopped hall hanswer hask⟩
        | true =>
            obtain ⟨later, hlater⟩ :=
              exists_describes settings (handleLine settings history line).history unread
            subst hrest
            exact ⟨_, describes_round hall hanswer hask hlater⟩
  termination_by lines.length
  decreasing_by exact Nat.lt_succ_of_lt hlength

-- A session is a dialogue between the greeting and the farewell, about a prefix
-- of the input. It leaves lines unread only behind a no, and every calculation
-- that succeeded is in the history, behind the entries that were there before.
theorem run_is_dialogue (settings : Settings) (history : History) (lines : List String) :
    ∃ dialogue : Dialogue, dialogue.Valid ∧
      lines = dialogue.lines ++ (run settings history lines).unread ∧
      ((run settings history lines).unread ≠ [] → ∃ round, dialogue.closing = .stopped round) ∧
      (run settings history lines).report.events =
        [.write settings.welcome, .write settings.hint] ++ dialogue.events settings history ++
          [.write settings.goodbye] ∧
      (run settings history lines).report.history.entries =
        history.entries ++ dialogue.expressions.filterMap (addition? settings) := by
  obtain ⟨dialogue, hdialogue⟩ := exists_describes settings history lines
  refine ⟨dialogue, hdialogue.valid, hdialogue.lines, hdialogue.unread, ?_, hdialogue.entries⟩
  simp [run, Report.before, Report.after, hdialogue.events, greeting]

end

end Reckoner.Session
