import Reckoner.Proofs.CheckedCalls
import Reckoner.Proofs.Grammar.Sentences
import Reckoner.Proofs.Passes

namespace Reckoner

open Token (after finished isUnaryPosition upTo)
open Token.CallRule (Opened UnclosedAt Whole calledBy check scan unclosed)
open Expr.Grammar (Complete IsSentence opening closing separator)

namespace Stacks

theorem finishArgument_eq_error {frame : Frame} {operands : List Expr}
    (h : frame.floor = operands.length) :
    finishArgument frame operands = .error (.rejected (.numberFormat "")) := by
  simp [finishArgument, h]

-- Without operators there is nothing to apply, and no operand where an argument ends.
theorem receive_within {reader : Reader} {function : Function} {exprs : List Expr}
    {token stop : Token} (hstop : stop = separator ∨ stop = closing) (previous : Option Token) :
    receive previous stop (reader.within function exprs token).state =
      .error (.rejected (.numberFormat "")) := by
  have hfinish := finishArgument_eq_error (Reader.floor_within function exprs reader)
  rcases hstop with rfl | rfl
  · simp [receive, separator, comma, applyAll, applyWhile, Reader.within, hfinish, Except.map]
  · simp [receive, closing, close, applyAll, applyWhile, Reader.within, hfinish, Except.map]

end Stacks

namespace Reader

variable {reader last : Reader} {function : Function} {arguments : List (List Token)}
  {rest : List Token}

theorem Reads.within_finished {exprs : List Expr} {token : Token}
    (h : Reads (reader.within function exprs token) (finished arguments) last)
    (hunary : isUnaryPosition (some token))
    (hplain : ∀ argument ∈ arguments, ∀ token ∈ argument, token.Plain)
    (henclosed : ∀ argument ∈ arguments, Token.enclosed 0 argument) :
    ∃ more stop, last = reader.within function more stop := by
  induction arguments generalizing exprs token with
  | nil => exact ⟨exprs, token, reads_nil_iff.mp h⟩
  | cons argument rest ih =>
      simp only [List.forall_mem_cons] at hplain henclosed
      rw [Token.finished_cons, ← List.singleton_append, ← List.append_assoc,
        reads_append_iff] at h
      obtain ⟨_, hargument, hrest⟩ := h
      obtain ⟨expr, -, rfl⟩ := (reads_separator_iff hunary hplain.1 henclosed.1).mp hargument
      exact ih hrest rfl hplain.2 henclosed.2

-- Only an opening bracket can stand where a name waits for one.
theorem Reads.exists_before {before : List Token} {token : Token}
    (h : Reads start (before ++ token :: rest) last) (hkind : token.kind ≠ .bracketOpen) :
    ∃ outer, Reads start before outer ∧ calledBy outer.previous = none ∧
      Reads outer (token :: rest) last := by
  obtain ⟨outer, hbefore, hrest⟩ := reads_append_iff.mp h
  obtain ⟨next, hstep, -⟩ := reads_cons_iff.mp hrest
  exact ⟨outer, hbefore, Token.CallRule.calledBy_of_scanOne hstep.spans hkind, hrest⟩

-- An argument is come to by a reader that has only the call of it in reach.
theorem Reads.before_argument {before : List Token}
    (h : Reads start (before ++ (upTo function arguments ++ rest)) last)
    (hplain : ∀ argument ∈ arguments, ∀ token ∈ argument, token.Plain)
    (henclosed : ∀ argument ∈ arguments, Token.enclosed 0 argument) :
    ∃ outer exprs token,
      Reads start (before ++ upTo function arguments) (within function exprs token outer) := by
  obtain ⟨outer, hbefore, hcalled, hcall⟩ := h.exists_before (by simp)
  have hreads : Reads outer (upTo function arguments ++ rest) last := hcall
  obtain ⟨mid, hmid, -⟩ := reads_append_iff.mp hreads
  have hsplit : upTo function arguments =
      [⟨.identifier, function.name⟩, opening] ++ finished arguments := rfl
  rw [hsplit, reads_append_iff] at hmid
  obtain ⟨_, hopened, hfinished⟩ := hmid
  obtain rfl := hopened.unique (reads_name function hcalled)
  obtain ⟨exprs, token, rfl⟩ := hfinished.within_finished rfl hplain henclosed
  refine ⟨outer, exprs, token, reads_append_iff.mpr ⟨outer, hbefore, ?_⟩⟩
  exact reads_append_iff.mpr ⟨_, hopened, hfinished⟩

end Reader

namespace Expr

open Reader

variable {tokens before front rest : List Token} {token : Token} {expr : Expr}
  {reader last : Reader}

theorem ofTokens_of_check_error {error : EvalError} (hcheck : check tokens = .error error) :
    ofTokens tokens = .error (.rejected error) := by
  cases tokens with
  | nil => cases hcheck
  | cons token rest => simp [ofTokens, hcheck]

-- The reading ends at the token that it cannot do anything with.
theorem ofTokens_of_receive_error {failure : Failure} (hreads : Reads start before reader)
    (hcalled : calledBy reader.previous = none) (hkind : token.kind ≠ .identifier)
    (hcheck : check (before ++ token :: rest) = .ok ())
    (hreceive : Stacks.receive reader.previous token reader.state = .error failure) :
    ofTokens (before ++ token :: rest) = .error failure := by
  have hprevious : reader.previous = before.getLast? :=
    (reads_iff.mp hreads).1.trans (Token.after_none before)
  have hstep := Stacks.receive_eq_step reader.previous token reader.state hcalled hkind
  have hread := hreads.reaches hcalled (token :: rest)
  rw [Stacks.readFrom, ← hprevious, ← hstep, hreceive] at hread
  simp [ofTokens, hcheck, hread]

theorem ofTokens_eq_finish (hreads : Reads start tokens reader)
    (hcalled : calledBy reader.previous = none) (hcheck : check tokens = .ok ())
    (hne : tokens ≠ []) :
    ofTokens tokens = Stacks.finish reader.state.waiting reader.state.operands := by
  have hread := Stacks.reaches_iff.mp (hreads.reaches hcalled)
  simp [ofTokens, hcheck, hread, hne]

namespace Grammar

theorem Complete.whole (h : Complete tokens expr last) : Whole tokens where
  ne_nil := by
    rintro rfl
    obtain rfl := reads_nil_iff.mp h.reads
    have happlied := h.applied
    cases happlied
  scanned := by
    have hscan := (reads_iff.mp h.reads).2.1
    rwa [h.spans] at hscan
  called := by
    have hcalled := h.called
    rwa [(reads_iff.mp h.reads).1] at hcalled
  enclosed := h.enclosed

section

variable {function : Function} {arguments others : List (List Token)} {argument : List Token}

theorem Complete.ofTokens_wrong_count
    (h : Complete (before ++ Token.call function arguments ++ rest) expr last)
    (hothers : ∀ other ∈ others, Whole other) (hwrong : others.length ≠ function.arity) :
    ofTokens (before ++ Token.call function others ++ rest) =
      .error (.rejected (.arity function.name function.arity)) := by
  have hreads := h.reads
  rw [List.append_assoc] at hreads
  obtain ⟨outer, hbefore, hcalled, -⟩ := hreads.exists_before (by simp)
  obtain ⟨hprevious, hscan, -⟩ := reads_iff.mp hbefore
  rw [hprevious] at hcalled
  exact ofTokens_of_check_error
    (Token.CallRule.check_wrong_count hscan hcalled hothers hwrong rest)

theorem Complete.ofTokens_without_argument {back : List (List Token)}
    (h : Complete (before ++ Token.call function (arguments ++ argument :: back) ++ rest) expr last)
    (henclosed : ∀ other ∈ arguments ++ argument :: back, Token.enclosed 0 other)
    (hmore : arguments ++ back ≠ []) :
    ofTokens (before ++ Token.call function (arguments ++ [] :: back) ++ rest) =
      .error (.rejected (.numberFormat "")) := by
  obtain ⟨stop, later, hstop, hsplit⟩ := Token.exists_stop function hmore rest
  have hplain := plain_of_plain_call fun token (htoken : token ∈ Token.call function _) =>
    h.plain token (List.mem_append_left _ (List.mem_append_right _ htoken))
  have hreads := h.reads
  have hcheck := h.whole.check
  rw [List.append_assoc, hsplit] at hreads hcheck
  rw [← List.append_assoc, ← List.append_assoc] at hcheck
  rw [List.append_assoc, hsplit, List.nil_append, ← List.append_assoc]
  -- the reading comes to the place of the argument as it did before
  obtain ⟨outer, exprs, token, hupTo⟩ := hreads.before_argument
    (fun other hother => hplain other (List.mem_append_left _ hother))
    (fun other hother => henclosed other (List.mem_append_left _ hother))
  have hcalled : calledBy (outer.within function exprs token).previous = none := by
    rw [(reads_iff.mp hupTo).1, Token.after_append]
    exact Token.calledBy_of_isUnaryPosition (Token.isUnaryPosition_upTo function arguments _)
  have hkind : stop.kind ≠ .identifier := by
    rcases hstop with rfl | ⟨rfl, -⟩ <;> decide
  exact ofTokens_of_receive_error hupTo hcalled hkind
    (Token.CallRule.check_without hstop (henclosed argument (by simp)) hcheck)
    (Stacks.receive_within (hstop.imp_right And.left) _)

end

-- Nothing is open that the first of the brackets could close.
theorem Complete.ofTokens_closings (h : Complete tokens expr last) (count : Nat) :
    ofTokens (tokens ++ List.replicate (count + 1) closing) =
      .error (.rejected .mismatchedParentheses) := by
  have hscan : scan none [] (tokens ++ List.replicate (count + 1) closing) = .ok [] := by
    rw [Token.CallRule.scan_append, h.whole.scanned]
    exact Token.CallRule.scan_closings h.whole.called (count + 1)
  have hlast : after none (tokens ++ List.replicate (count + 1) closing) = some closing := by
    rw [Token.after_append, Token.after_eq, List.getLast?_replicate]
    rfl
  have hcheck : check (tokens ++ List.replicate (count + 1) closing) = .ok () := by
    have hcalled : calledBy (some closing) = none := rfl
    rw [Token.CallRule.check_eq_unclosed hscan (hlast ▸ hcalled)]
    rfl
  have hclose : Stacks.receive last.previous closing last.state =
      .error (.rejected .mismatchedParentheses) := by
    simp [Stacks.receive, closing, Stacks.close, h.applied]
  exact ofTokens_of_receive_error h.reads h.called (by decide) hcheck hclose

section

variable {count : Nat}

-- What is left of a complete text without its last brackets: the reading could
-- have closed one bracket more.
structure Truncated (front : List Token) (reader : Reader) : Prop where
  reads : Reads start front reader
  called : calledBy reader.previous = none
  sound : Stacks.Sound reader.spans reader.state
  opened : Opened front reader.spans
  closes : ∃ next, Stacks.close reader.state = .ok next

theorem Complete.exists_truncated
    (h : Complete (front ++ List.replicate (count + 1) closing) expr last) :
    ∃ reader, Truncated front reader := by
  obtain ⟨reader, hfront, hcalled, hclosings⟩ := h.reads.exists_before (by decide)
  obtain ⟨next, hstep, -⟩ := reads_cons_iff.mp hclosings
  have hscan := (reads_iff.mp hfront).2.1
  exact ⟨reader, {
    reads := hfront
    called := hcalled
    sound := hfront.sound (fun token htoken => h.plain token (List.mem_append_left _ htoken))
      Stacks.sound_empty
    opened := (Opened.nil Token.shut_nil).scan hscan
    closes := ⟨next.state, hstep.state⟩ }⟩

theorem Truncated.ne_nil (h : Truncated front reader) : front ≠ [] := by
  rintro rfl
  obtain rfl := reads_nil_iff.mp h.reads
  obtain ⟨next, hclose⟩ := h.closes
  cases hclose

theorem Truncated.check_eq (h : Truncated front reader) :
    check front = unclosed reader.spans := by
  obtain ⟨hprevious, hscan, -⟩ := reads_iff.mp h.reads
  have hcalled := h.called
  rw [hprevious] at hcalled
  exact Token.CallRule.check_eq_unclosed hscan hcalled

-- Only plain brackets are open, and one of them is what the end comes upon.
theorem Truncated.finish_eq (h : Truncated front reader)
    (hclosed : unclosed reader.spans = .ok ()) :
    Stacks.finish reader.state.waiting reader.state.operands =
      .error (.rejected .mismatchedParentheses) := by
  have hspans := ((Token.CallRule.final_eq_ok_iff none reader.spans).mp hclosed).2
  obtain ⟨hcalls, -⟩ := h.sound.agrees.of_no_calls hspans
  obtain ⟨next, hclose⟩ := h.closes
  rcases Stacks.close_cases hclose with
    ⟨waiting, operands, happly, -⟩ | ⟨_, _, frame, calls, _, -, hframe, -, -⟩
  · rw [Stacks.applyAll_eq, hcalls] at happly
    exact Stacks.finish_after happly
  · rw [hcalls] at hframe
    cases hframe

theorem Truncated.ofTokens_eq (h : Truncated front reader) :
    (ofTokens front = .error (.rejected .mismatchedParentheses) ∧
      ∀ left function, ¬UnclosedAt front left function) ∨
    ∃ left function, UnclosedAt front left function ∧
      (∀ earlier < left, ∀ other, ¬UnclosedAt front earlier other) ∧
      ofTokens front = .error (.rejected (.malformedFunctionCall function.name)) := by
  have hcheck := h.check_eq
  rcases Token.CallRule.unclosed_of_opened h.opened with
    ⟨hclosed, hnone⟩ | ⟨left, function, hopen, hunclosed, hfirst⟩
  · have hfinish := ofTokens_eq_finish h.reads h.called (hcheck.trans hclosed) h.ne_nil
    exact .inl ⟨hfinish.trans (h.finish_eq hclosed), hnone⟩
  · exact .inr ⟨left, function, hunclosed, hfirst,
      ofTokens_of_check_error (hcheck.trans hopen)⟩

end

end Grammar

-- What is done to the tokens, and the error that it is answered with. A bracket that
-- is open belongs to a call or stands for itself, and of the calls the outermost one
-- is at fault.
inductive Flaw (tokens : List Token) : List Token → EvalError → Prop
  | unclosedCall {front : List Token} {count left : Nat} {function : Function} :
      tokens = front ++ List.replicate (count + 1) closing → UnclosedAt front left function →
      (∀ earlier < left, ∀ other, ¬UnclosedAt front earlier other) →
      Flaw tokens front (.malformedFunctionCall function.name)
  | unclosedGroup {front : List Token} {count : Nat} :
      tokens = front ++ List.replicate (count + 1) closing →
      (∀ left function, ¬UnclosedAt front left function) →
      Flaw tokens front .mismatchedParentheses
  | overclosed (count : Nat) :
      Flaw tokens (tokens ++ List.replicate (count + 1) closing) .mismatchedParentheses
  | missingArgument {before after argument : List Token} {function : Function}
      {front back : List (List Token)} :
      tokens = before ++ Token.call function (front ++ argument :: back) ++ after →
      (∀ other ∈ front ++ argument :: back, Token.enclosed 0 other) → front ++ back ≠ [] →
      Flaw tokens (before ++ Token.call function (front ++ [] :: back) ++ after) (.numberFormat "")
  | wrongCount {before after : List Token} {function : Function}
      {arguments others : List (List Token)} :
      tokens = before ++ Token.call function arguments ++ after →
      (∀ argument ∈ arguments, Token.enclosed 0 argument) →
      (∀ other ∈ others, ∃ expr, IsSentence other expr) → others.length ≠ function.arity →
      Flaw tokens (before ++ Token.call function others ++ after)
        (.arity function.name function.arity)

-- A sentence with one flaw is answered with the error of this flaw, wherever it is.
-- To leave out brackets at the end is always a flaw.
theorem ofTokens_of_flaw (h : IsSentence tokens expr) :
    (∀ faulty error, Flaw tokens faulty error → ofTokens faulty = .error (.rejected error)) ∧
    ∀ front count, tokens = front ++ List.replicate (count + 1) closing →
      ∃ error, Flaw tokens front error := by
  obtain ⟨last, hcomplete⟩ := h.exists_complete
  refine ⟨fun faulty error hflaw => ?_, fun front count htokens => ?_⟩
  · cases hflaw with
    | unclosedCall htokens hunclosed hfirst =>
        obtain ⟨reader, htruncated⟩ := (htokens ▸ hcomplete).exists_truncated
        rcases htruncated.ofTokens_eq with ⟨-, hnone⟩ | ⟨left, function, hopen, hopenFirst, herror⟩
        · exact absurd hunclosed (hnone _ _)
        · rw [herror, hopen.unique hopenFirst hunclosed hfirst]
    | unclosedGroup htokens hnone =>
        obtain ⟨reader, htruncated⟩ := (htokens ▸ hcomplete).exists_truncated
        rcases htruncated.ofTokens_eq with ⟨herror, -⟩ | ⟨left, function, hunclosed, -, -⟩
        · exact herror
        · exact absurd hunclosed (hnone left function)
    | overclosed count => exact hcomplete.ofTokens_closings count
    | missingArgument htokens henclosed hmore =>
        exact (htokens ▸ hcomplete).ofTokens_without_argument henclosed hmore
    | wrongCount htokens _ hothers hwrong =>
        refine (htokens ▸ hcomplete).ofTokens_wrong_count (fun other hother => ?_) hwrong
        obtain ⟨expr, hother⟩ := hothers other hother
        obtain ⟨last, hlast⟩ := hother.exists_complete
        exact hlast.whole
  · obtain ⟨reader, htruncated⟩ := (htokens ▸ hcomplete).exists_truncated
    rcases htruncated.ofTokens_eq with ⟨-, hnone⟩ | ⟨left, function, hunclosed, hfirst, -⟩
    · exact ⟨_, .unclosedGroup htokens hnone⟩
    · exact ⟨_, .unclosedCall htokens hunclosed hfirst⟩

-- The root of four as the exponent of a power, in brackets. Without its last bracket
-- the outer group is open, without the last two the power is.
theorem ofTokens_of_flaw_power :
    let call : List Token := [⟨.identifier, "power"⟩, opening, ⟨.number, "2"⟩, separator,
      ⟨.identifier, "sqrt"⟩, opening, ⟨.number, "4"⟩, closing, closing]
    let tokens : List Token := opening :: call ++ [closing]
    let expr : Expr := .call "power" [.number (Binary64.ofInt 2),
      .call "sqrt" [.number (Binary64.ofInt 4)]]
    IsSentence tokens expr ∧
      ofTokens (opening :: call) = .error (.rejected .mismatchedParentheses) ∧
      ofTokens (opening :: call.take 8) = .error (.rejected (.malformedFunctionCall "power")) ∧
      ofTokens (tokens ++ [closing]) = .error (.rejected .mismatchedParentheses) ∧
      ofTokens ([opening] ++ Token.call .power [[⟨.number, "2"⟩], []] ++ [closing]) =
        .error (.rejected (.numberFormat "")) ∧
      ofTokens ([opening] ++ Token.call .power [] ++ [closing]) =
        .error (.rejected (.arity "power" 2)) := by
  intro call tokens expr
  have h2 : Decimal.read? "2" = some (Binary64.ofInt 2) := by decide +kernel
  have h4 : Decimal.read? "4" = some (Binary64.ofInt 4) := by decide +kernel
  have hroot : Grammar.IsAtom [⟨.identifier, "sqrt"⟩, opening, ⟨.number, "4"⟩, closing]
      (.call "sqrt" [.number (Binary64.ofInt 4)]) :=
    @Grammar.IsAtom.call .sqrt _ _ (.last (.product (.atom (.number h4)))) rfl
  have hpower : Grammar.IsAtom call expr :=
    @Grammar.IsAtom.call .power _ _
      (.more (.product (.atom (.number h2))) (.last (.product (.atom hroot)))) rfl
  have hsentence : IsSentence tokens expr :=
    .product (.atom (.group (.product (.atom hpower))))
  have hcall : tokens = [opening] ++ Token.call .power ([[⟨.number, "2"⟩]] ++
      [⟨.identifier, "sqrt"⟩, opening, ⟨.number, "4"⟩, closing] :: []) ++ [closing] := by decide
  have hgroup : ∀ left function, ¬UnclosedAt (opening :: call) left function := by
    intro left function hunclosed
    have hmated : ∀ left < 10, Token.kindAt (opening :: call) left = some .bracketOpen →
        Token.CallRule.calledAt (opening :: call) left = none ∨
          ∃ right < 10, Token.Mates (opening :: call) left right := by decide +kernel
    rcases hmated left (Token.lt_length_of_kindAt hunclosed.opening) hunclosed.opening with
      hnone | ⟨right, -, hmates⟩
    · cases hnone.symm.trans hunclosed.called
    · exact hunclosed.unmated right hmates
  have hpowerOpen : UnclosedAt (opening :: call.take 8) 2 .power := by
    refine ⟨by decide, by decide, fun right hmates => ?_⟩
    have hunmated : ∀ right < 9, ¬Token.Mates (opening :: call.take 8) 2 right := by
      decide +kernel
    exact hunmated right hmates.right_lt hmates
  have hfirst : ∀ earlier < 2, ∀ other, ¬UnclosedAt (opening :: call.take 8) earlier other := by
    intro earlier hearlier other hunclosed
    have hplain : ∀ earlier < 2,
        Token.CallRule.calledAt (opening :: call.take 8) earlier = none := by decide
    cases (hplain earlier hearlier).symm.trans hunclosed.called
  have hflaw := (ofTokens_of_flaw hsentence).1
  refine ⟨hsentence, ?_, ?_, ?_, ?_, ?_⟩
  · exact hflaw _ _ (@Flaw.unclosedGroup _ _ 0 rfl hgroup)
  · exact hflaw _ _ (@Flaw.unclosedCall _ _ 1 _ _ rfl hpowerOpen hfirst)
  · exact hflaw _ _ (.overclosed 0)
  · exact hflaw _ _ (.missingArgument hcall (by decide) (by decide))
  · exact hflaw _ _ (@Flaw.wrongCount _ _ _ _ _ [] hcall (by decide) (by simp) (by decide))

end Expr

end Reckoner
