import Mathlib.Data.List.Infix
import Reckoner.Session

namespace Reckoner.Session

-- What can be asked of a session.
inductive Call
  | handle (line : String)
  | list
  | ask (lines : List String)
  | run (lines : List String)

-- What a session does, told by what brings it about. Only the last three come
-- from the history or from an expression.
inductive Deed
  | said (event : Event)
  | noted (record : Log.Record)
  | listed (entries : List String)
  | answered (expression : String) (value : Binary64)
  | failed (expression : String) (kind : ErrorKind) (message : String)

-- Entries as a user sees them, counted from one.
def shown (entries : List String) : List Event :=
  if entries = [] then [.write "No calculations in history."]
  else .write "Calculation History:" ::
    (entries.mapIdx fun i entry => toString (i + 1) ++ ". " ++ entry).map .write

namespace Deed

def events : Deed → List Event
  | .said event => [event]
  | .noted _ => []
  | .listed entries => shown entries
  | .answered _ value => [.write ("Result: " ++ value.text)]
  | .failed _ _ message => [.write ("Error: " ++ message)]

-- The records that are not mere details.
def records : Deed → List Log.Record
  | .noted record => [record]
  | .failed expression kind _ =>
      [⟨.info, "🧮❌ " ++ kind.name ++ ": " ++ Text.quoted expression⟩]
  | _ => []

def entries : Deed → List String
  | .answered expression value => [expression ++ " = " ++ value.text]
  | _ => []

end Deed

-- What comes of an expression.
def verdict (expression : String) : Deed :=
  match evaluate expression with
  | .result _ value => .answered expression value
  | .failure _ kind message => .failed expression kind message

-- What comes of a line.
def deedOf (settings : Settings) (history : History) (line : String) : Deed :=
  if isHistoryCommand settings (Text.strip line) then .listed history.entries
  else verdict (Text.strip line)

section

variable (settings : Settings)

def perform (history : History) : Call → Report
  | .handle line => handleLine settings history line
  | .list => ⟨listing history, [], history⟩
  | .ask lines => ⟨(ask settings lines).events, [], history⟩
  | .run lines => (run settings history lines).report

-- Every call meets the history that the calls before it have left.
def performAll (history : History) : List Call → Report
  | [] => ⟨[], [], history⟩
  | call :: rest =>
      let report := perform settings history call
      (performAll report.history rest).before report.events report.records

-- The deeds of a conversation. A line counts as an expression only where it
-- was read for one.
def narrate : Phase → History → List String → List Deed
  | phase, _, [] => [.said (.prompt (phase.prompt settings)), .said (.write "")]
  | .expression, history, line :: rest =>
      .said (.prompt settings.prompt) :: deedOf settings history line ::
        narrate .answer (handleLine settings history line).history rest
  | .answer, history, line :: rest =>
      .said (.prompt settings.continuePrompt) ::
        match answer? line with
        | some true => narrate .expression history rest
        | some false => []
        | none =>
            .said (.write "Error: Please enter only 'y' or 'n'.") :: narrate .answer history rest

def callDeeds (history : History) : Call → List Deed
  | .handle line => [deedOf settings history line]
  | .list => [.listed history.entries]
  | .ask lines => (ask settings lines).events.map .said
  | .run lines =>
      [.said (.write settings.welcome), .said (.write settings.hint),
          .noted ⟨.info, "🧮 Session started"⟩] ++ narrate settings .expression history lines ++
        [.said (.write settings.goodbye),
          .noted ⟨.info, "🧮 Session finished with " ++
            toString (run settings history lines).report.history.size ++ " calculation(s)"⟩]

def deedsOf (history : History) : List Call → List Deed
  | [] => []
  | call :: rest =>
      callDeeds settings history call ++ deedsOf (perform settings history call).history rest

end

-- Every listing shows the entries of its moment.
def Truthful (entries : List String) : List Deed → Prop
  | [] => True
  | deed :: rest =>
      (∀ others, deed = .listed others → others = entries) ∧ Truthful (entries ++ deed.entries) rest

theorem truthful_append {entries : List String} {front back : List Deed} :
    Truthful entries (front ++ back) ↔
      Truthful entries front ∧ Truthful (entries ++ front.flatMap Deed.entries) back := by
  induction front generalizing entries with
  | nil => simp [Truthful]
  | cons deed front ih => simp [Truthful, ih, and_assoc]

-- What a report says of a history is what the deeds say of it.
structure Accounts (history : History) (report : Report) (deeds : List Deed) : Prop where
  events : report.events = deeds.flatMap Deed.events
  records : Log.keep .info report.records = deeds.flatMap Deed.records
  entries : report.history.entries = history.entries ++ deeds.flatMap Deed.entries
  listings : Truthful history.entries deeds

theorem keep_append (level : Log.Level) (first second : List Log.Record) :
    Log.keep level (first ++ second) = Log.keep level first ++ Log.keep level second :=
  List.filter_append ..

theorem accounts_nil (history : History) : Accounts history ⟨[], [], history⟩ [] where
  events := rfl
  records := rfl
  entries := by simp
  listings := trivial

theorem Accounts.before {history : History} {report later : Report} {deeds more : List Deed}
    (hreport : Accounts history report deeds) (hlater : Accounts report.history later more) :
    Accounts history (later.before report.events report.records) (deeds ++ more) where
  events := by simp [Report.before, hreport.events, hlater.events]
  records := by simp [Report.before, keep_append, hreport.records, hlater.records]
  entries := by simp [Report.before, hreport.entries, hlater.entries]
  listings := truthful_append.mpr ⟨hreport.listings, hreport.entries ▸ hlater.listings⟩

theorem accounts_said (history : History) (events : List Event) :
    Accounts history ⟨events, [], history⟩ (events.map .said) where
  events := by simp [Deed.events, List.flatMap_map]
  records := by simp [Deed.records, List.flatMap_map, Log.keep]
  entries := by simp [Deed.entries, List.flatMap_map]
  listings := by
    induction events with
    | nil => trivial
    | cons event events ih => exact ⟨by simp, by simpa [Deed.entries] using ih⟩

theorem numberFrom_eq (first : Nat) (entries : List String) :
    History.numberFrom first entries =
      entries.mapIdx fun i entry => toString (first + i) ++ ". " ++ entry := by
  induction entries generalizing first with
  | nil => rfl
  | cons entry rest ih =>
      simp only [History.numberFrom, ih, List.mapIdx_cons, Nat.add_zero, List.cons.injEq, true_and]
      simp only [Nat.add_assoc, Nat.add_comm 1]

theorem listing_eq (history : History) : listing history = shown history.entries := by
  unfold listing shown History.isEmpty
  cases hentries : history.entries with
  | nil => simp
  | cons entry rest =>
      simp [History.numbered, hentries, numberFrom_eq, Nat.add_comm 1]

-- One thing that comes of a line, and what it does to the history.
inductive Handles (history : History) (line : String) (report : Report) : Deed → Prop
  | listed (hevents : report.events = shown history.entries) (hrecords : report.records = [])
      (hhistory : report.history = history) : Handles history line report (.listed history.entries)
  | answered (value : Binary64) (hevents : report.events = [.write ("Result: " ++ value.text)])
      (hrecords : Log.keep .info report.records = [])
      (hhistory : report.history.entries =
        history.entries ++ [Text.strip line ++ " = " ++ value.text]) :
      Handles history line report (.answered (Text.strip line) value)
  | failed (kind : ErrorKind) (message : String)
      (hevents : report.events = [.write ("Error: " ++ message)])
      (hrecords : Log.keep .info report.records =
        [⟨.info, "🧮❌ " ++ kind.name ++ ": " ++ Text.quoted (Text.strip line)⟩])
      (hhistory : report.history = history) :
      Handles history line report (.failed (Text.strip line) kind message)

-- An outcome keeps the expression that it is about.
theorem verdict_cases (expression : String) :
    (∃ value, evaluate expression = .result expression value ∧
        verdict expression = .answered expression value) ∨
      ∃ kind message, evaluate expression = .failure expression kind message ∧
        verdict expression = .failed expression kind message := by
  unfold verdict evaluate attempt
  cases valueOf expression with
  | ok value => exact .inl ⟨value, rfl, rfl⟩
  | error failure => cases failure <;> exact .inr ⟨_, _, rfl, rfl⟩

theorem handles_handleLine (settings : Settings) (history : History) (line : String) :
    Handles history line (handleLine settings history line) (deedOf settings history line) := by
  unfold handleLine deedOf
  by_cases hcommand : isHistoryCommand settings (Text.strip line)
  · simp only [hcommand, if_true]
    exact .listed (listing_eq history) rfl rfl
  · simp only [hcommand, Bool.false_eq_true, if_false]
    rcases verdict_cases (Text.strip line) with
      ⟨value, houtcome, hverdict⟩ | ⟨kind, message, houtcome, hverdict⟩
    · rw [houtcome, hverdict]
      exact .answered value rfl rfl rfl
    · rw [houtcome, hverdict]
      exact .failed kind message rfl rfl rfl

theorem Handles.accounts {history : History} {line : String} {report : Report} {deed : Deed}
    (hhandles : Handles history line report deed) : Accounts history report [deed] := by
  cases hhandles with
  | listed hevents hrecords hhistory =>
      exact ⟨by simp [hevents, Deed.events], by simp [hrecords, Deed.records, Log.keep],
        by simp [hhistory, Deed.entries], by simp [Truthful]⟩
  | answered value hevents hrecords hhistory =>
      exact ⟨by simp [hevents, Deed.events], by simp [hrecords, Deed.records],
        by simp [hhistory, Deed.entries], by simp [Truthful]⟩
  | failed kind message hevents hrecords hhistory =>
      exact ⟨by simp [hevents, Deed.events], by simp [hrecords, Deed.records],
        by simp [hhistory, Deed.entries], by simp [Truthful]⟩

section

variable (settings : Settings) (history : History)

theorem accounts_handleLine (line : String) :
    Accounts history (handleLine settings history line) [deedOf settings history line] :=
  (handles_handleLine settings history line).accounts

theorem accounts_listing :
    Accounts history ⟨listing history, [], history⟩ [.listed history.entries] where
  events := by simp [listing_eq, Deed.events]
  records := rfl
  entries := by simp [Deed.entries]
  listings := by simp [Truthful]

theorem accounts_noted (message : String) :
    Accounts history ⟨[], [⟨.info, message⟩], history⟩ [.noted ⟨.info, message⟩] where
  events := rfl
  records := rfl
  entries := by simp [Deed.entries]
  listings := by simp [Truthful]

section

variable {line : String} {rest : List String}

theorem report_expression :
    (converse settings .expression history (line :: rest)).report =
      let report := handleLine settings history line
      ((converse settings .answer report.history rest).report.before report.events
        report.records).before [.prompt settings.prompt] [] := by
  simp [converse, react, Report.before, Phase.prompt]

theorem report_refused (hanswer : answer? line = none) :
    (converse settings .answer history (line :: rest)).report =
      (converse settings .answer history rest).report.before
        [.prompt settings.continuePrompt, refusal] [] := by
  simp [converse, react, hanswer, Report.before, Phase.prompt]

theorem report_yes (hanswer : answer? line = some true) :
    (converse settings .answer history (line :: rest)).report =
      (converse settings .expression history rest).report.before
        [.prompt settings.continuePrompt] [] := by
  simp [converse, react, hanswer, Report.before, Phase.prompt]

theorem report_no (hanswer : answer? line = some false) :
    (converse settings .answer history (line :: rest)).report =
      ⟨[.prompt settings.continuePrompt], [], history⟩ := by
  simp [converse, react, hanswer, Report.before, Phase.prompt]

end

-- One line after the other, each at the prompt that it was read for.
theorem accounts_converse (phase : Phase) (lines : List String) :
    Accounts history (converse settings phase history lines).report
      (narrate settings phase history lines) := by
  induction lines generalizing phase history with
  | nil =>
      have hended := accounts_said history [.prompt (phase.prompt settings), .write ""]
      cases phase <;> exact hended
  | cons line rest ih =>
      cases phase with
      | expression =>
          have hprompt := accounts_said history [.prompt settings.prompt]
          have hline := accounts_handleLine settings history line
          rw [report_expression]
          exact hprompt.before (hline.before (ih _ .answer))
      | answer =>
          cases hanswer : answer? line with
          | none =>
              have hrefused := accounts_said history [.prompt settings.continuePrompt, refusal]
              rw [report_refused _ _ hanswer]
              simpa [narrate, hanswer, refusal] using hrefused.before (ih history .answer)
          | some yes =>
              have hprompt := accounts_said history [.prompt settings.continuePrompt]
              cases yes with
              | true =>
                  rw [report_yes _ _ hanswer]
                  simpa [narrate, hanswer] using hprompt.before (ih history .expression)
              | false =>
                  rw [report_no _ _ hanswer]
                  simpa [narrate, hanswer] using hprompt

theorem accounts_run (lines : List String) :
    Accounts history (run settings history lines).report
      (callDeeds settings history (.run lines)) := by
  have hconverse := accounts_converse settings history .expression lines
  generalize hreport : (converse settings .expression history lines).report = report at hconverse
  have hfarewell := (accounts_said report.history [.write settings.goodbye]).before
    (accounts_noted report.history ("🧮 Session finished with " ++ toString report.history.size ++
      " calculation(s)"))
  have hbody := (accounts_noted history "🧮 Session started").before (hconverse.before hfarewell)
  have hall := (accounts_said history (greeting settings)).before hbody
  simpa [run, hreport, callDeeds, greeting, Report.before, Report.after, started, finished] using
    hall

theorem accounts_perform (call : Call) :
    Accounts history (perform settings history call) (callDeeds settings history call) := by
  cases call with
  | handle line => exact accounts_handleLine settings history line
  | list => exact accounts_listing history
  | ask lines => exact accounts_said history _
  | run lines => exact accounts_run settings history lines

theorem accounts_performAll (calls : List Call) :
    Accounts history (performAll settings history calls) (deedsOf settings history calls) := by
  induction calls generalizing history with
  | nil => exact accounts_nil history
  | cons call rest ih => exact (accounts_perform settings history call).before (ih _)

end

theorem Truthful.entries_eq {entries others : List String} {front back : List Deed}
    (htruthful : Truthful entries (front ++ .listed others :: back)) :
    others = entries ++ front.flatMap Deed.entries :=
  (truthful_append.mp htruthful).2.1 others rfl

-- The history is a ledger of the results that were shown. Whatever is asked of a
-- session, it adds the entries of those results, in their order, and nothing
-- else. Every line does one thing, and every listing shows what is there.
theorem history_is_ledger (settings : Settings) (history : History) (calls : List Call) :
    let report := performAll settings history calls
    let deeds := deedsOf settings history calls
    report.events = deeds.flatMap Deed.events ∧
      Log.keep .info report.records = deeds.flatMap Deed.records ∧
      report.history.entries = history.entries ++ deeds.flatMap Deed.entries ∧
      (∀ front entries back, deeds = front ++ .listed entries :: back →
        entries = history.entries ++ front.flatMap Deed.entries) ∧
      (∀ front call back, calls = front ++ call :: back →
        let before := (performAll settings history front).history
        before.entries <+: (perform settings before call).history.entries) ∧
      ∀ before line,
        Handles before line (handleLine settings before line) (deedOf settings before line) := by
  have haccounts := accounts_performAll settings history calls
  refine ⟨haccounts.events, haccounts.records, haccounts.entries, ?_, ?_,
    handles_handleLine settings⟩
  · intro front entries back hdeeds
    have htruthful := haccounts.listings
    rw [hdeeds] at htruthful
    exact htruthful.entries_eq
  · intro front call back _ before
    rw [(accounts_perform settings before call).entries]
    exact List.prefix_append _ _

end Reckoner.Session
