import Reckoner.Proofs.Arguments
import Reckoner.Proofs.Stacks.Reached

namespace Reckoner.Token

open Expr.Grammar (opening closing separator)

-- Arguments with their commas, as they stand before another argument.
def finished (arguments : List (List Token)) : List Token := arguments.flatMap (· ++ [separator])

theorem finished_cons (argument : List Token) (rest : List (List Token)) :
    finished (argument :: rest) = argument ++ separator :: finished rest := by
  simp [finished]

theorem after_finished {arguments : List (List Token)} (hne : arguments ≠ [])
    (previous : Option Token) : after previous (finished arguments) = some separator := by
  induction arguments generalizing previous with
  | nil => exact absurd rfl hne
  | cons argument rest ih =>
      rw [finished_cons, after_append, after_cons]
      cases rest with
      | nil => rfl
      | cons second rest => exact ih (List.cons_ne_nil _ _) (some separator)

theorem isUnaryPosition_finished (arguments : List (List Token)) {previous : Option Token}
    (hunary : isUnaryPosition previous) : isUnaryPosition (after previous (finished arguments)) := by
  cases arguments with
  | nil => exact hunary
  | cons argument rest =>
      rw [after_finished (List.cons_ne_nil _ _)]
      rfl

theorem intercalate_append (front back : List (List Token)) (argument : List Token) :
    [separator].intercalate (front ++ argument :: back) =
      finished front ++ (argument ++ back.flatMap (separator :: ·)) := by
  induction front generalizing argument back with
  | nil =>
      induction back generalizing argument with
      | nil => simp [finished, List.intercalate_singleton]
      | cons second back ih =>
          have hback := ih second
          rw [List.nil_append] at hback ⊢
          rw [List.intercalate_cons_cons, hback]
          simp [finished]
  | cons first front ih =>
      have hne : front ++ argument :: back ≠ [] := by simp
      rw [List.cons_append, List.intercalate_cons_of_ne_nil hne, ih, finished_cons]
      simp

-- A call up to the place where another argument begins.
def upTo (function : Function) (arguments : List (List Token)) : List Token :=
  ⟨.identifier, function.name⟩ :: opening :: finished arguments

theorem call_nil (function : Function) : call function [] = upTo function [] ++ [closing] := rfl

theorem call_append (function : Function) (front back : List (List Token))
    (argument : List Token) :
    call function (front ++ argument :: back) =
      upTo function front ++ (argument ++ (back.flatMap (separator :: ·) ++ [closing])) := by
  simp [call, upTo, intercalate_append]

-- Behind an argument there is a comma, or it is the last one. It is not the only
-- one if there are more.
theorem exists_stop (function : Function) {front back : List (List Token)}
    (hmore : front ++ back ≠ []) (after : List Token) :
    ∃ stop rest, (stop = separator ∨ stop = closing ∧ front ≠ []) ∧
      ∀ argument, call function (front ++ argument :: back) ++ after =
        upTo function front ++ (argument ++ stop :: rest) := by
  cases back with
  | nil =>
      rw [List.append_nil] at hmore
      exact ⟨closing, after, .inr ⟨rfl, hmore⟩, fun argument => by simp [call_append]⟩
  | cons other back =>
      refine ⟨separator, other ++ (back.flatMap (separator :: ·) ++ closing :: after), .inl rfl, ?_⟩
      exact fun argument => by simp [call_append]

theorem isUnaryPosition_upTo (function : Function) (arguments : List (List Token))
    (previous : Option Token) : isUnaryPosition (after previous (upTo function arguments)) :=
  isUnaryPosition_finished arguments (show isUnaryPosition (some opening) from rfl)

-- A comma stands between the opening bracket and what is not the first argument.
theorem isOpening_upTo (function : Function) {arguments : List (List Token)}
    (hne : arguments ≠ []) (previous : Option Token) :
    CallRule.isOpening (after previous (upTo function arguments)) = false := by
  have hcomma : after previous (upTo function arguments) = some separator :=
    after_finished hne (some opening)
  rw [hcomma]
  rfl

namespace CallRule

variable {before argument rest : List Token} {token stop : Token}
  {outer spans : List (Option Span)} {function : Function} {error : EvalError}

theorem check_eq_error (hscan : scan none [] before = .ok spans)
    (hone : scanOne (after none before) token spans = .error error) :
    check (before ++ token :: rest) = .error error := by
  rw [check_eq_scan, scan_append, hscan]
  simp only [Except.bind, scan, hone]

-- At the end of the tokens all that counts is what is open.
theorem check_eq_unclosed (hscan : scan none [] before = .ok spans)
    (hcalled : calledBy (after none before) = none) : check before = unclosed spans := by
  rw [check_eq_scan, hscan]
  simp only [Except.bind, final, hcalled]

-- What is closed without having been opened is passed over.
theorem scan_closings {previous : Option Token} (hcalled : calledBy previous = none)
    (count : Nat) : scan previous [] (List.replicate count closing) = .ok [] := by
  induction count generalizing previous with
  | zero => rfl
  | succ count ih =>
      have hclosing : scanOne previous closing [] = .ok [] := by
        simp [scanOne, hcalled, closing]
      rw [List.replicate_succ, scan, hclosing]
      exact ih rfl

-- Where an argument has been, the check does not miss it, unless two brackets come
-- to stand side by side.
theorem check_without {arguments : List (List Token)}
    (hstop : stop = separator ∨ stop = closing ∧ arguments ≠ []) (henclosed : enclosed 0 argument)
    (hcheck : check (before ++ upTo function arguments ++ argument ++ stop :: rest) = .ok ()) :
    check (before ++ upTo function arguments ++ stop :: rest) = .ok () := by
  obtain ⟨last, hscan, hfinal⟩ := (check_eq_ok_iff _).mp hcheck
  obtain ⟨outer, hwith, hback⟩ := exists_scan_of_append hscan
  obtain ⟨spans, hfront, hargument⟩ := exists_scan_of_append hwith
  have hunary : isUnaryPosition (after none (before ++ upTo function arguments)) := by
    rw [after_append]
    exact isUnaryPosition_upTo function arguments _
  rw [scan_argument hunary henclosed, map_eq_ok_iff] at hargument
  obtain ⟨_, -, rfl⟩ := hargument
  obtain ⟨next, hone, hrest⟩ := scan_cons_eq_ok_iff.mp hback
  have hkind : stop.kind ≠ .bracketOpen := by
    rcases hstop with rfl | ⟨rfl, -⟩ <;> decide
  have hcalled : calledBy (after none (before ++ upTo function arguments)) =
      calledBy (after none (before ++ upTo function arguments ++ argument)) :=
    (calledBy_of_isUnaryPosition hunary).trans (calledBy_of_scanOne hone hkind).symm
  have hbeside (hclosing : stop.kind = .bracketClose) :
      isOpening (after none (before ++ upTo function arguments)) =
        isOpening (after none (before ++ upTo function arguments ++ argument)) := by
    rcases hstop with rfl | ⟨rfl, hne⟩
    · cases hclosing
    · cases argument with
      | nil => rw [List.append_nil]
      | cons first more =>
          rw [after_append, isOpening_upTo function hne, after_append, isOpening_after henclosed]
  refine (check_eq_ok_iff _).mpr ⟨last, ?_, ?_⟩
  · rw [scan_append, hfront]
    exact scan_cons_eq_ok_iff.mpr ⟨next, (scanOne_congr hcalled hbeside).trans hone, hrest⟩
  · rwa [after_append, after_cons] at hfinal ⊢

-- A text that the check gets through by itself.
structure Whole (tokens : List Token) : Prop where
  ne_nil : tokens ≠ []
  scanned : scan none [] tokens = .ok []
  called : calledBy (after none tokens) = none
  enclosed : enclosed 0 tokens

theorem Whole.scan {tokens : List Token} (h : Whole tokens) {previous : Option Token}
    (hunary : isUnaryPosition previous) : scan previous outer tokens = .ok outer := by
  rw [scan_argument hunary h.enclosed, h.scanned]
  rfl

theorem Whole.called_after {tokens : List Token} (h : Whole tokens) {previous : Option Token}
    (hunary : isUnaryPosition previous) : calledBy (after previous tokens) = none := by
  have hcalled : calledBy previous = calledBy none := calledBy_of_isUnaryPosition hunary
  rw [calledBy_after hcalled, h.called]

theorem Whole.check {tokens : List Token} (h : Whole tokens) : check tokens = .ok () :=
  (check_eq_ok_iff tokens).mpr ⟨[], h.scanned, (final_eq_ok_iff _ _).mpr ⟨h.called, by simp⟩⟩

theorem Whole.isOpening_after {tokens : List Token} (h : Whole tokens) (previous : Option Token) :
    isOpening (after previous tokens) = false := by
  cases tokens with
  | nil => exact absurd rfl h.ne_nil
  | cons first rest => exact Token.isOpening_after h.enclosed

theorem scan_finished {arguments : List (List Token)}
    (harguments : ∀ argument ∈ arguments, Whole argument) {previous : Option Token}
    (hunary : isUnaryPosition previous) (commas : Nat) :
    scan previous (some ⟨function, commas⟩ :: outer) (finished arguments) =
      .ok (some ⟨function, commas + arguments.length⟩ :: outer) := by
  induction arguments generalizing previous commas with
  | nil => rfl
  | cons argument rest ih =>
      obtain ⟨hargument, hrest⟩ := List.forall_mem_cons.mp harguments
      have hcalled := hargument.called_after hunary
      have hcomma : scanOne (after previous argument) separator
          (some ⟨function, commas⟩ :: outer) = .ok (some ⟨function, commas + 1⟩ :: outer) := by
        simp [scanOne, hcalled, separator, countComma]
      have hlater := @ih hrest (some separator) rfl (commas + 1)
      rw [Nat.add_assoc, Nat.add_comm 1] at hlater
      rw [finished_cons, scan_append, hargument.scan hunary]
      simp only [Except.bind, scan, hcomma]
      exact hlater

-- The check comes to an argument with the call still open, and with a comma for
-- every argument before.
theorem scan_upTo {arguments : List (List Token)} (hscan : scan none [] before = .ok spans)
    (hcalled : calledBy (after none before) = none)
    (harguments : ∀ argument ∈ arguments, Whole argument) :
    scan none [] (before ++ upTo function arguments) =
      .ok (some ⟨function, arguments.length⟩ :: spans) := by
  have hidentifier : scanOne (after none before) ⟨.identifier, function.name⟩ spans = .ok spans := by
    simp only [scanOne, hcalled]
  have hname : calledBy (some ⟨.identifier, function.name⟩) = some function := by
    simp [calledBy]
  have hopening : scanOne (some ⟨.identifier, function.name⟩) opening spans =
      .ok (some ⟨function, 0⟩ :: spans) := by
    rw [scanOne_of_calledBy hname, if_pos (show opening.kind = .bracketOpen from rfl)]
  have hunary : isUnaryPosition (some opening) := rfl
  rw [scan_append, hscan, upTo]
  simp only [Except.bind, scan, hidentifier, hopening]
  rw [scan_finished harguments hunary, Nat.zero_add]

-- The closing bracket of a call is the place where its arguments are counted.
theorem check_closing {span : Span} (hscan : scan none [] before = .ok (some span :: outer))
    (hcalled : calledBy (after none before) = none)
    (hcount : argumentCount (after none before) span ≠ span.function.arity) :
    check (before ++ closing :: rest) =
      .error (.arity span.function.name span.function.arity) :=
  check_eq_error hscan (by simp [scanOne, hcalled, closing, close, hcount, Except.map])

-- Arguments that the check finds nothing wrong with may still be too many or too few.
theorem check_wrong_count {others : List (List Token)} (hscan : scan none [] before = .ok spans)
    (hcalled : calledBy (after none before) = none) (hothers : ∀ other ∈ others, Whole other)
    (hwrong : others.length ≠ function.arity) (rest : List Token) :
    check (before ++ call function others ++ rest) =
      .error (.arity function.name function.arity) := by
  rcases List.eq_nil_or_concat others with rfl | ⟨front, last, rfl⟩
  · have hname := @scan_upTo before spans function [] hscan hcalled (by simp)
    have hopened : after none (before ++ upTo function []) = some opening := after_append _ _ _
    have hcheck := @check_closing _ rest _ ⟨function, 0⟩ hname (by rw [hopened]; rfl)
      (by rwa [hopened])
    rw [← hcheck, call_nil]
    simp
  · rw [List.concat_eq_append] at hothers hwrong ⊢
    obtain ⟨hfront, hback⟩ := List.forall_mem_append.mp hothers
    have hwhole := hback last (List.mem_singleton_self last)
    have hunary := isUnaryPosition_upTo function front (after none before)
    have hupTo := @scan_upTo before spans function front hscan hcalled hfront
    have hlast : scan none [] (before ++ upTo function front ++ last) =
        .ok (some ⟨function, front.length⟩ :: spans) := by
      rw [scan_append, hupTo, after_append]
      exact hwhole.scan hunary
    have hended : after none (before ++ upTo function front ++ last) =
        after (after (after none before) (upTo function front)) last := by
      rw [after_append, after_append]
    have hcheck := @check_closing _ rest _ ⟨function, front.length⟩ hlast
      (by rw [hended]; exact hwhole.called_after hunary)
      (by simpa [hended, argumentCount, hwhole.isOpening_after] using hwrong)
    rw [← hcheck, call_append]
    simp

end CallRule

end Reckoner.Token
