import Reckoner.Proofs.CallRule
import Reckoner.Proofs.Stacks.BeyondRule
import Reckoner.Proofs.Stacks.Placed
import Reckoner.Proofs.Stacks.Reached

namespace Reckoner

namespace Stacks

open Token (Mates)
open Token.CallRule (Span calledBy calledAt namedAt check Holds)

-- The reading has come to a closing bracket and has applied what waited above
-- the bracket that is to be closed.
structure ClosesAt (tokens before : List Token) (state : Stacks) (waiting : List Waiting)
    (operands : List Expr) : Prop where
  closing : ∃ closing after, tokens = before ++ closing :: after ∧ closing.kind = .bracketClose
  reached : Reaches before state
  applied : applyAll state = .ok (waiting, operands)

-- What the two passes find on their stacks at a closing bracket: nothing where it
-- has no mate, and otherwise what they put there at its mate, above what they held
-- when they came to it. A call's entry is that of the name before the mate.
inductive Faces (tokens before : List Token) : List Waiting → List Frame → Prop
  | stray : (∀ left, ¬Mates tokens left before.length) → Holds before [] →
      Faces tokens before [] []
  | bracket {left : Nat} {outer : List (Option Span)} {earlier : Stacks} :
      Mates tokens left before.length → calledAt tokens left = none →
      Holds (tokens.take left) outer → Holds before (none :: outer) →
      Reaches (tokens.take left) earlier →
      Faces tokens before (.bracket :: earlier.waiting) earlier.calls
  | call {place : Nat} {function : Function} {finished : Nat} {outer : List (Option Span)}
      {earlier : Stacks} :
      Mates tokens (place + 1) before.length → namedAt tokens place = some function →
      Holds (tokens.take place) outer → Holds before (some ⟨function, finished⟩ :: outer) →
      Reaches (tokens.take place) earlier →
      Faces tokens before (.call function.name :: earlier.waiting)
        (⟨function.name, earlier.operands.length, finished⟩ :: earlier.calls)

-- The reading relies on the check for the brackets of calls and for the numbers of
-- their arguments, and it finds both as it expects them.
structure InStep (tokens : List Token) : Prop where
  failures : ∀ failure, Expr.ofTokens tokens = .error failure → failure.BeyondRule
  names : ∀ before name rest state function, tokens = before ++ name :: rest →
    Reaches before state → calledBy (some name) = some function →
    ∃ opening after opened, rest = opening :: after ∧ opening.kind = .bracketOpen ∧
      opening.lexeme = "(" ∧ openCall name.lexeme state = .ok opened ∧
      Reaches (before ++ [name, opening]) opened
  ends : ∀ state, Reaches tokens state → state.calls = [] ∧ ∀ name, .call name ∉ state.waiting
  closes : ∀ before state waiting operands, ClosesAt tokens before state waiting operands →
    Faces tokens before waiting state.calls
  folds : ∀ before state name waiting operands frame calls finished,
    ClosesAt tokens before state (.call name :: waiting) operands →
    state.calls = frame :: calls → finishArgument frame operands = .ok finished →
    ∃ (function : Function) (arguments rest : List Expr), function.name = name ∧
      fold finished operands = .call name arguments :: rest ∧
      finished.finished = function.arity ∧ arguments.length = function.arity

theorem Agrees.of_no_calls {spans : List (Option Span)} {waiting : List Waiting}
    {calls : List Frame} (h : Agrees spans waiting calls) (hspans : ∀ span ∈ spans, span = none) :
    calls = [] ∧ ∀ name, .call name ∉ waiting := by
  induction h with
  | nil => simp
  | operator _ _ ih => simpa using ih hspans
  | bracket _ ih => simpa using ih fun span hspan => hspans span (List.mem_cons_of_mem _ hspan)
  | call _ _ _ => simpa using hspans _ List.mem_cons_self

section

variable {tokens before : List Token} {state : Stacks} {waiting : List Waiting}
  {operands : List Expr}

-- Where the check accepts the tokens, it can be followed along with the reading.
theorem Reaches.reads (h : Reaches before state) (hcheck : check tokens = .ok ())
    (hbefore : before <+: tokens) :
    ∃ spans, calledBy before.getLast? = none ∧
      Reader.Reads Reader.start before ⟨before.getLast?, spans, state⟩ := by
  obtain ⟨last, hlast, -⟩ := (Token.CallRule.check_eq_ok_iff tokens).mp hcheck
  obtain ⟨rest, rfl⟩ := hbefore
  obtain ⟨spans, hspans, -⟩ := Token.CallRule.exists_scan_of_append hlast
  exact ⟨spans, Reader.reads_of_reaches hspans h⟩

theorem ClosesAt.faces (h : ClosesAt tokens before state waiting operands)
    (hplain : ∀ token ∈ tokens, token.Plain) (hcheck : check tokens = .ok ()) :
    Faces tokens before waiting state.calls := by
  obtain ⟨closing, after, rfl, hclosing⟩ := h.closing
  obtain ⟨spans, hcalled, hreads⟩ := h.reached.reads hcheck (List.prefix_append before _)
  have hholds := hreads.holds hcalled
  have hplaced := (hreads.placed fun token htoken =>
    hplain token (List.mem_append_left _ htoken)).applyWhile h.applied
  have htop := settled_of_applyWhile h.applied
  simp only at hplaced hholds
  clear hreads hcalled h
  generalize state.calls = calls at hplaced ⊢
  cases hplaced with
  | nil hshut => exact .stray hshut.not_mates hholds
  | operator _ => cases htop
  | @bracket front inner opening earlier hearlier _ hprevious hopening hinner =>
      have hmates := Token.mates_length front after hopening hclosing hinner
      have hlast : earlier.previous = front.getLast? :=
        (Reader.reads_iff.mp hearlier).1.trans (Token.after_none front)
      refine .bracket hmates ?_ ?_ hholds ?_
      · rw [List.append_assoc, List.cons_append, Token.CallRule.calledAt_length, ← hlast, hprevious]
      · rw [List.append_assoc, List.take_left]
        exact hearlier.holds hprevious
      · rw [List.append_assoc, List.take_left]
        exact hearlier.reaches hprevious
  | @call front inner name opening function earlier finished hearlier _ hprevious hname hopening
      hinner =>
      have hmates := Token.mates_length (front ++ [name]) after hopening hclosing hinner
      rw [List.append_assoc front, List.length_append] at hmates
      refine .call hmates ?_ ?_ hholds ?_
      · rw [List.append_assoc, List.cons_append, Token.CallRule.namedAt_length, hname]
      · rw [List.append_assoc, List.take_left]
        exact hearlier.holds hprevious
      · rw [List.append_assoc, List.take_left]
        exact hearlier.reaches hprevious

theorem ClosesAt.folds {name : String} {frame finished : Frame} {calls : List Frame}
    (h : ClosesAt tokens before state (.call name :: waiting) operands)
    (hplain : ∀ token ∈ tokens, token.Plain) (hcheck : check tokens = .ok ())
    (hcalls : state.calls = frame :: calls) (hfinish : finishArgument frame operands = .ok finished) :
    ∃ (function : Function) (arguments rest : List Expr), function.name = name ∧
      fold finished operands = .call name arguments :: rest ∧
      finished.finished = function.arity ∧ arguments.length = function.arity := by
  have hfaces := h.faces hplain hcheck
  obtain ⟨closing, after, hsplit, hclosing⟩ := h.closing
  rw [hcalls] at hfaces
  cases hfaces with
  | @call place function count outer earlier _ _ _ hholds _ =>
      obtain ⟨hlength, rfl⟩ := finishArgument_eq_ok_iff.mp hfinish
      have harity : count + 1 = function.arity := by
        have honward := hholds.onward (closing :: after)
        rw [← hsplit, hcheck] at honward
        simp only [Token.CallRule.checkFrom, hclosing] at honward
        cases hclose : Token.CallRule.close before.getLast? (some ⟨function, count⟩) with
        | error cause => simp [hclose] at honward
        | ok => exact Token.CallRule.count_of_close hclose
      refine ⟨function, _, _, rfl, rfl, harity, ?_⟩
      rw [List.length_reverse, List.length_take]
      simp only [Frame.floor] at hlength ⊢
      omega

theorem Reaches.name {name : Token} {rest : List Token} {function : Function}
    (h : Reaches before state) (hplain : ∀ token ∈ before ++ name :: rest, token.Plain)
    (hcheck : check (before ++ name :: rest) = .ok ())
    (hname : calledBy (some name) = some function) :
    ∃ opening after opened, rest = opening :: after ∧ opening.kind = .bracketOpen ∧
      opening.lexeme = "(" ∧ openCall name.lexeme state = .ok opened ∧
      Reaches (before ++ [name, opening]) opened := by
  obtain ⟨last, hscan, hfinal⟩ := (Token.CallRule.check_eq_ok_iff _).mp hcheck
  obtain ⟨mid, -, hback⟩ := Token.CallRule.exists_scan_of_append hscan
  obtain ⟨next, -, hrest⟩ := Token.CallRule.scan_cons_eq_ok_iff.mp hback
  cases rest with
  | nil =>
      have hlast := ((Token.CallRule.final_eq_ok_iff _ _).mp hfinal).1
      rw [Token.after_append, Token.after_cons, Token.after_nil, hname] at hlast
      cases hlast
  | cons opening after =>
      obtain ⟨_, hone, -⟩ := Token.CallRule.scan_cons_eq_ok_iff.mp hrest
      have hopening := (Token.CallRule.eq_of_scanOne_of_calledBy hname hone).1
      have hkind := Token.CallRule.kind_of_calledBy hname
      have hlexeme : function.name = name.lexeme := by
        rw [Token.CallRule.calledBy_identifier hkind] at hname
        exact Function.name_of_named? hname
      have hopened := openCall_name function state
      rw [hlexeme] at hopened
      refine ⟨opening, after, _, rfl, hopening, (hplain opening (by simp)).opening hopening,
        hopened, reaches_iff.mpr ?_⟩
      rw [h [name, opening], readFrom]
      simp only [step, hkind, hopened, ite_true]
      rfl

theorem Reaches.ends (h : Reaches tokens state) (hplain : ∀ token ∈ tokens, token.Plain)
    (hcheck : check tokens = .ok ()) :
    state.calls = [] ∧ ∀ name, .call name ∉ state.waiting := by
  obtain ⟨last, hscan, hfinal⟩ := (Token.CallRule.check_eq_ok_iff _).mp hcheck
  obtain ⟨-, hreads⟩ := Reader.reads_of_reaches hscan h
  have hsound := hreads.sound hplain sound_empty
  exact hsound.agrees.of_no_calls ((Token.CallRule.final_eq_ok_iff _ _).mp hfinal).2

end

end Stacks

theorem Expr.beyondRule_of_ofTokens {tokens : List Token} {failure : Failure}
    (hplain : ∀ token ∈ tokens, token.Plain) (hcheck : Token.CallRule.check tokens = .ok ())
    (h : Expr.ofTokens tokens = .error failure) : failure.BeyondRule := by
  obtain ⟨spans, hscan, hfinal⟩ := (Token.CallRule.check_eq_ok_iff tokens).mp hcheck
  obtain ⟨hcalled, hspans⟩ := (Token.CallRule.final_eq_ok_iff _ _).mp hfinal
  have hread := Stacks.readFrom_eq_receiveAll none Stacks.empty tokens [] spans rfl hscan hcalled
  have hyields := Stacks.receiveAll_beyondRule Stacks.sound_empty hplain hscan
  unfold Expr.ofTokens at h
  simp only [hcheck, hread] at h
  split at h
  · cases h
    simp [Failure.BeyondRule, Token.CallRule.Blames, EvalError.kind]
  · cases hall : Stacks.receiveAll none Stacks.empty tokens with
    | error cause =>
        rw [hall] at h hyields
        cases h
        exact hyields
    | ok state =>
        rw [hall] at h hyields
        have hnone := (hyields.agrees.of_no_calls hspans).2
        have hfinish := Stacks.finish_yields hyields.agrees hyields.operands
        simp only [] at h
        rw [h] at hfinish
        cases failure with
        | rejected error => exact Stacks.not_blames_of_finish hnone h
        | broken breach => exact hfinish.elim

namespace Stacks

theorem inStep_of_check (tokens : List Token) (hplain : ∀ token ∈ tokens, token.Plain)
    (hcheck : Token.CallRule.check tokens = .ok ()) : InStep tokens where
  failures _ hfailure := Expr.beyondRule_of_ofTokens hplain hcheck hfailure
  names before name rest state function hsplit hreached hname := by
    subst hsplit
    exact hreached.name hplain hcheck hname
  ends _ hreached := hreached.ends hplain hcheck
  closes _ _ _ _ h := h.faces hplain hcheck
  folds _ _ _ _ _ _ _ _ h hcalls hfinish := h.folds hplain hcheck hcalls hfinish

-- The outer call at the end of an expression, with the inner one for its second
-- argument.
theorem inStep_of_check_nested :
    let tokens : List Token := [⟨.identifier, "power"⟩, ⟨.bracketOpen, "("⟩, ⟨.number, "2"⟩,
      ⟨.comma, ","⟩, ⟨.identifier, "sqrt"⟩, ⟨.bracketOpen, "("⟩, ⟨.number, "4"⟩,
      ⟨.bracketClose, ")"⟩, ⟨.bracketClose, ")"⟩]
    let operands : List Expr :=
      [.call "sqrt" [.number (Binary64.ofInt 4)], .number (Binary64.ofInt 2)]
    (∀ token ∈ tokens, token.Plain) ∧ Token.CallRule.check tokens = .ok () ∧ InStep tokens ∧
      ClosesAt tokens (tokens.take 8) ⟨operands, [.call "power"], [⟨"power", 0, 1⟩]⟩
        [.call "power"] operands := by
  intro tokens operands
  have hplain : ∀ token ∈ tokens, token.Plain := by decide
  have hcheck : Token.CallRule.check tokens = .ok () := by decide
  have h2 : Decimal.read? "2" = some (Binary64.ofInt 2) := by decide +kernel
  have h4 : Decimal.read? "4" = some (Binary64.ofInt 4) := by decide +kernel
  refine ⟨hplain, hcheck, inStep_of_check tokens hplain hcheck, ?_⟩
  refine ⟨⟨⟨.bracketClose, ")"⟩, [], rfl, rfl⟩, reaches_iff.mpr ?_, rfl⟩
  simp only [tokens, List.take_succ_cons, List.take_zero, readFrom, step, number, h2, h4]
  rfl

end Stacks

end Reckoner
