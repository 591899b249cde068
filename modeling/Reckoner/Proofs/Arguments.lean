import Mathlib.Data.List.Forall2
import Reckoner.Proofs.Stacks.Above

namespace Reckoner

open Token (Alike enclosed after isUnaryPosition)
open Token.CallRule (Span calledBy scanOne final)
open Expr.Grammar (opening closing separator)

theorem Stacks.receive_alike {previous other : Option Token} {token : Token} {rest : List Token}
    (h : Alike previous other (token :: rest)) (state : Stacks) :
    receive previous token state = receive other token state := by
  cases hk : token.kind with
  | bracketOpen => simp only [receive, hk, h.called]
  | operator => simp only [receive, hk, operator, h.unary]
  | number | identifier | comma | bracketClose => simp only [receive, hk]

namespace Reader

variable {base reader next last : Reader} {token : Token} {tokens argument : List Token}

theorem steps_alike {previous other : Option Token} {spans : List (Option Span)} {state : Stacks}
    (h : Alike previous other (token :: tokens)) :
    Steps ⟨previous, spans, state⟩ token next ↔ Steps ⟨other, spans, state⟩ token next := by
  constructor
  · rintro ⟨hp, hs, hr⟩
    exact ⟨hp, (Token.scanOne_alike h).symm.trans hs, (Stacks.receive_alike h _).symm.trans hr⟩
  · rintro ⟨hp, hs, hr⟩
    exact ⟨hp, (Token.scanOne_alike h).trans hs, (Stacks.receive_alike h _).trans hr⟩

-- Reading on from another token makes no difference once there is a next one.
theorem reads_alike {previous other : Option Token} {spans : List (Option Span)} {state : Stacks}
    (h : Alike previous other tokens) :
    Reads ⟨previous, spans, state⟩ tokens last ↔
      ∃ inner, Reads ⟨other, spans, state⟩ tokens inner ∧
        last = ⟨after previous tokens, inner.spans, inner.state⟩ := by
  cases tokens with
  | nil => simp [reads_nil_iff]
  | cons token rest =>
      simp only [reads_cons_iff, steps_alike h]
      constructor
      · rintro ⟨next, hstep, hrest⟩
        have hprevious := (reads_iff.mp hrest).1
        rw [hstep.previous] at hprevious
        exact ⟨last, ⟨next, hstep, hrest⟩, by rw [Token.after_cons, ← hprevious]⟩
      · rintro ⟨inner, ⟨next, hstep, hrest⟩, rfl⟩
        have hprevious := (reads_iff.mp hrest).1
        rw [hstep.previous] at hprevious
        rw [Token.after_cons, ← hprevious]
        exact ⟨next, hstep, hrest⟩

-- The reader of a text that stands inside another one.
def above (base reader : Reader) : Reader :=
  reader.map (· ++ base.spans) (Stacks.above base.state)

-- The tokens stay inside the brackets that are open or that they open.
structure Contains (reader : Reader) (tokens : List Token) : Prop where
  sound : Stacks.Sound reader.spans reader.state
  plain : ∀ token ∈ tokens, token.Plain
  enclosed : enclosed reader.spans.length tokens

theorem contains_start (hplain : ∀ token ∈ argument, token.Plain)
    (henclosed : enclosed 0 argument) : Contains start argument :=
  ⟨Stacks.sound_empty, hplain, henclosed⟩

theorem Contains.step (h : Contains reader (token :: tokens)) (hstep : Steps reader token next) :
    Contains next tokens := by
  have hplain := List.forall_mem_cons.mp h.plain
  exact ⟨hstep.sound hplain.1 h.sound, hplain.2,
    Token.enclosed_of_scanOne h.enclosed hstep.spans⟩

-- What a text does by itself it does inside another one, and nothing else.
theorem reads_above_iff (h : base.state.Closed) (hcontains : Contains reader tokens) :
    Reads (above base reader) tokens last ↔
      ∃ inner, Reads reader tokens inner ∧ last = above base inner := by
  refine reads_map_iff ?_ ?_ ?_ hcontains
  · intro reader token rest hcontains
    exact Token.scanOne_append (Token.inside_of_enclosed hcontains.enclosed)
  · intro reader token rest hcontains
    exact Stacks.receive_above h hcontains.sound
      (Token.inside_of_enclosed hcontains.enclosed) reader.previous
  · intro reader token rest next hcontains hstep
    exact hcontains.step hstep

-- At its end the text has closed what it opened.
theorem Contains.sound_of_reads (h : Contains reader tokens) (hreads : Reads reader tokens last) :
    last.spans = [] ∧ Stacks.Sound [] last.state := by
  induction hreads with
  | nil reader =>
      have hspans : reader.spans = [] := by simpa [Token.enclosed] using h.enclosed
      exact ⟨hspans, hspans ▸ h.sound⟩
  | cons hstep _ ih => exact ih (h.step hstep)

section

variable {function : Function} {finished : List Expr}

-- The reader of an argument that began where the call's reader stood.
def inArgument (function : Function) (finished : List Expr) (previous : Option Token)
    (reader inner : Reader) : Reader :=
  ⟨previous, inner.spans ++ (some ⟨function, finished.length⟩ :: reader.spans),
    Stacks.above ⟨finished.reverse ++ reader.state.operands,
      .call function.name :: reader.state.waiting,
      ⟨function.name, reader.state.operands.length, finished.length⟩ :: reader.state.calls⟩
      inner.state⟩

theorem floor_within (function : Function) (finished : List Expr) (reader : Reader) :
    Frame.floor ⟨function.name, reader.state.operands.length, finished.length⟩ =
      (finished.reverse ++ reader.state.operands).length := by
  simp [Frame.floor, Nat.add_comm]

theorem reads_within_iff (hunary : isUnaryPosition (some token))
    (hplain : ∀ token ∈ argument, token.Plain) (henclosed : enclosed 0 argument) :
    Reads (reader.within function finished token) argument last ↔
      ∃ inner, Reads start argument inner ∧
        last = inArgument function finished (after (some token) argument) reader inner := by
  have hclosed : (reader.within function finished token).state.Closed :=
    Stacks.closed_call (floor_within function finished reader)
  have habove (other : Reader) :
      Reads ((reader.within function finished token).above start) argument other ↔
        ∃ inner, Reads start argument inner ∧
          other = (reader.within function finished token).above inner :=
    reads_above_iff hclosed (contains_start hplain henclosed)
  refine (reads_alike (Token.alike_none hunary henclosed)).trans ?_
  constructor
  · rintro ⟨_, hreads, rfl⟩
    obtain ⟨inner, hinner, rfl⟩ := (habove _).mp hreads
    exact ⟨inner, hinner, rfl⟩
  · rintro ⟨inner, hinner, rfl⟩
    exact ⟨_, (habove _).mpr ⟨inner, hinner, rfl⟩, rfl⟩

-- A comma accepts of an argument what the end accepts of a text.
theorem steps_separator_iff {previous : Option Token} {inner : Reader}
    (hcalled : calledBy previous = calledBy inner.previous) (hspans : inner.spans = [])
    (hsound : Stacks.Sound [] inner.state) :
    Steps (inArgument function finished previous reader inner) separator next ↔
      ∃ expr, final inner.previous inner.spans = .ok () ∧
        Stacks.finish inner.state.waiting inner.state.operands = .ok expr ∧
        next = reader.within function (finished ++ [expr]) separator := by
  have hfloor := floor_within function finished reader
  constructor
  · obtain ⟨_, spans, state⟩ := next
    rintro ⟨rfl, hs, hr⟩
    have hnone : calledBy previous = none :=
      Token.CallRule.calledBy_of_scanOne hs (by decide)
    obtain ⟨expr, hfinish, rfl⟩ := (Stacks.comma_above_iff hfloor hsound ",").mp hr
    refine ⟨expr, ?_, hfinish, ?_⟩
    · rw [Token.CallRule.final_eq_ok_iff, hspans, ← hcalled]
      exact ⟨hnone, by simp⟩
    · simp only [inArgument, scanOne, hnone, separator, hspans, Token.CallRule.countComma,
        List.nil_append, Except.ok.injEq] at hs
      subst hs
      simp [within, separator]
  · rintro ⟨expr, hfinal, hfinish, rfl⟩
    have hnone := hcalled.trans ((Token.CallRule.final_eq_ok_iff _ _).mp hfinal).1
    refine ⟨rfl, ?_, ?_⟩
    · simp [inArgument, scanOne, hnone, separator, hspans, Token.CallRule.countComma, within]
    · refine (Stacks.comma_above_iff hfloor hsound ",").mpr ⟨expr, hfinish, ?_⟩
      simp [within]

theorem steps_closing_iff {previous : Option Token} {inner : Reader}
    (hcalled : calledBy previous = calledBy inner.previous) (hspans : inner.spans = [])
    (hsound : Stacks.Sound [] inner.state) (harity : finished.length + 1 = function.arity)
    (hopening : ∀ expr, Stacks.finish inner.state.waiting inner.state.operands = .ok expr →
      Token.CallRule.isOpening previous = false) :
    Steps (inArgument function finished previous reader inner) closing next ↔
      ∃ expr, final inner.previous inner.spans = .ok () ∧
        Stacks.finish inner.state.waiting inner.state.operands = .ok expr ∧
        next = reader.push closing (.call function.name (finished ++ [expr])) := by
  have hfloor := floor_within function finished reader
  constructor
  · obtain ⟨_, spans, state⟩ := next
    rintro ⟨rfl, hs, hr⟩
    have hnone : calledBy previous = none :=
      Token.CallRule.calledBy_of_scanOne hs (by decide)
    obtain ⟨expr, hfinish, rfl⟩ := (Stacks.close_above_iff hfloor hsound).mp hr
    refine ⟨expr, ?_, hfinish, ?_⟩
    · rw [Token.CallRule.final_eq_ok_iff, hspans, ← hcalled]
      exact ⟨hnone, by simp⟩
    · simp only [inArgument, scanOne, hnone, closing, hspans, List.nil_append, map_eq_ok_iff] at hs
      obtain ⟨-, -, rfl⟩ := hs
      simp [push, Stacks.fold_concat]
  · rintro ⟨expr, hfinal, hfinish, rfl⟩
    have hnone := hcalled.trans ((Token.CallRule.final_eq_ok_iff _ _).mp hfinal).1
    refine ⟨rfl, ?_, ?_⟩
    · simp [inArgument, scanOne, hnone, closing, hspans, Token.CallRule.close,
        Token.CallRule.argumentCount, hopening expr hfinish, harity, Except.map, push]
    · refine (Stacks.close_above_iff hfloor hsound).mpr ⟨expr, hfinish, ?_⟩
      simp [push, Stacks.fold_concat]

-- An argument is read as a text is, up to the token behind it.
theorem reads_ended_iff {stop : Token} {result : Expr → Reader}
    (hunary : isUnaryPosition (some token)) (hplain : ∀ token ∈ argument, token.Plain)
    (henclosed : enclosed 0 argument)
    (hstop : ∀ inner, Reads start argument inner →
      (Steps (inArgument function finished (after (some token) argument) reader inner) stop next ↔
        ∃ expr, final inner.previous inner.spans = .ok () ∧
          Stacks.finish inner.state.waiting inner.state.operands = .ok expr ∧
          next = result expr)) :
    Reads (reader.within function finished token) (argument ++ [stop]) next ↔
      ∃ expr, Expr.ofTokens argument = .ok expr ∧ next = result expr := by
  simp only [reads_append_iff, reads_within_iff hunary hplain henclosed, reads_singleton_iff,
    Expr.ofTokens_eq_ok_iff]
  constructor
  · rintro ⟨_, ⟨inner, hinner, rfl⟩, hstep⟩
    obtain ⟨expr, hfinal, hfinish, hnext⟩ := (hstop inner hinner).mp hstep
    exact ⟨expr, ⟨inner, hinner, hfinal, hfinish⟩, hnext⟩
  · rintro ⟨expr, ⟨inner, hinner, hfinal, hfinish⟩, hnext⟩
    exact ⟨_, ⟨inner, hinner, rfl⟩, (hstop inner hinner).mpr ⟨expr, hfinal, hfinish, hnext⟩⟩

theorem calledBy_after_argument {inner : Reader} (hunary : isUnaryPosition (some token))
    (hinner : Reads start argument inner) :
    calledBy (after (some token) argument) = calledBy inner.previous := by
  rw [(reads_iff.mp hinner).1]
  exact Token.CallRule.calledBy_after (Token.calledBy_of_isUnaryPosition hunary) argument

theorem reads_separator_iff (hunary : isUnaryPosition (some token))
    (hplain : ∀ token ∈ argument, token.Plain) (henclosed : enclosed 0 argument) :
    Reads (reader.within function finished token) (argument ++ [separator]) next ↔
      ∃ expr, Expr.ofTokens argument = .ok expr ∧
        next = reader.within function (finished ++ [expr]) separator := by
  refine reads_ended_iff hunary hplain henclosed fun inner hinner => ?_
  obtain ⟨hspans, hsound⟩ := (contains_start hplain henclosed).sound_of_reads hinner
  exact steps_separator_iff (calledBy_after_argument hunary hinner) hspans hsound

theorem reads_closing_iff (hunary : isUnaryPosition (some token))
    (hplain : ∀ token ∈ argument, token.Plain) (henclosed : enclosed 0 argument)
    (harity : finished.length + 1 = function.arity) :
    Reads (reader.within function finished token) (argument ++ [closing]) next ↔
      ∃ expr, Expr.ofTokens argument = .ok expr ∧
        next = reader.push closing (.call function.name (finished ++ [expr])) := by
  refine reads_ended_iff hunary hplain henclosed fun inner hinner => ?_
  obtain ⟨hspans, hsound⟩ := (contains_start hplain henclosed).sound_of_reads hinner
  refine steps_closing_iff (calledBy_after_argument hunary hinner) hspans hsound harity ?_
  intro expr hfinish
  cases argument with
  | nil =>
      cases hinner
      cases hfinish
  | cons first rest => exact Token.isOpening_after henclosed

end

end Reader

-- A call of a function, as it is written.
def Token.call (function : Function) (arguments : List (List Token)) : List Token :=
  ⟨.identifier, function.name⟩ :: opening :: [separator].intercalate arguments ++ [closing]

namespace Expr

theorem mem_intercalate {separator argument : List Token} {arguments : List (List Token)}
    (hargument : argument ∈ arguments) :
    ∀ token ∈ argument, token ∈ separator.intercalate arguments := by
  induction arguments with
  | nil => cases hargument
  | cons first rest ih =>
      intro token htoken
      cases rest with
      | nil =>
          obtain rfl := List.mem_singleton.mp hargument
          rwa [List.intercalate_singleton]
      | cons second rest =>
          rw [List.intercalate_cons_cons, List.append_assoc]
          rcases List.mem_cons.mp hargument with rfl | hrest
          · exact List.mem_append_left _ htoken
          · exact List.mem_append_right _ (List.mem_append_right _ (ih hrest token htoken))

theorem plain_of_plain_call {function : Function} {arguments : List (List Token)}
    (hplain : ∀ token ∈ Token.call function arguments, token.Plain) :
    ∀ argument ∈ arguments, ∀ token ∈ argument, token.Plain := by
  intro argument hargument token htoken
  apply hplain
  simp [Token.call, mem_intercalate hargument token htoken]

end Expr

namespace Reader

theorem reads_arguments_iff {function : Function} {arguments : List (List Token)}
    {finished : List Expr} {reader next : Reader} {token : Token}
    (hunary : isUnaryPosition (some token)) (hne : arguments ≠ [])
    (harity : finished.length + arguments.length = function.arity)
    (hplain : ∀ argument ∈ arguments, ∀ token ∈ argument, token.Plain)
    (henclosed : ∀ argument ∈ arguments, enclosed 0 argument) :
    Reads (reader.within function finished token) ([separator].intercalate arguments ++ [closing])
        next ↔
      ∃ exprs, List.Forall₂ (fun argument expr => Expr.ofTokens argument = .ok expr)
          arguments exprs ∧
        next = reader.push closing (.call function.name (finished ++ exprs)) := by
  induction arguments generalizing finished token with
  | nil => exact absurd rfl hne
  | cons argument rest ih =>
      simp only [List.forall_mem_cons] at hplain henclosed
      cases rest with
      | nil =>
          rw [List.intercalate_singleton, reads_closing_iff hunary hplain.1 henclosed.1 harity]
          constructor
          · rintro ⟨expr, hexpr, hnext⟩
            exact ⟨[expr], .cons hexpr .nil, hnext⟩
          · rintro ⟨exprs, hall, hnext⟩
            obtain ⟨expr, _, hexpr, hnil, rfl⟩ := List.forall₂_cons_left_iff.mp hall
            obtain rfl := List.forall₂_nil_left_iff.mp hnil
            exact ⟨expr, hexpr, hnext⟩
      | cons second rest =>
          have hrest (expr : Expr) :=
            @ih (finished ++ [expr]) separator rfl (List.cons_ne_nil _ _)
              (by simpa [Nat.add_assoc, Nat.add_comm 1] using harity) hplain.2 henclosed.2
          rw [List.intercalate_cons_cons, List.append_assoc _ _ [closing], reads_append_iff]
          simp only [reads_separator_iff hunary hplain.1 henclosed.1]
          constructor
          · rintro ⟨_, ⟨expr, hexpr, rfl⟩, hreads⟩
            obtain ⟨exprs, hexprs, hnext⟩ := (hrest expr).mp hreads
            exact ⟨expr :: exprs, .cons hexpr hexprs, by simpa using hnext⟩
          · rintro ⟨_, hall, hnext⟩
            obtain ⟨expr, exprs, hexpr, hexprs, rfl⟩ := List.forall₂_cons_left_iff.mp hall
            exact ⟨_, ⟨expr, hexpr, rfl⟩, (hrest expr).mpr ⟨exprs, hexprs, by simpa using hnext⟩⟩

-- A call is read to its end just when each of its arguments can be read by
-- itself, and then it leaves one operand.
theorem reads_call_iff {function : Function} {arguments : List (List Token)} {reader next : Reader}
    (hcalled : calledBy reader.previous = none) (harity : arguments.length = function.arity)
    (hplain : ∀ argument ∈ arguments, ∀ token ∈ argument, token.Plain)
    (henclosed : ∀ argument ∈ arguments, enclosed 0 argument) :
    Reads reader (Token.call function arguments) next ↔
      ∃ exprs, List.Forall₂ (fun argument expr => Expr.ofTokens argument = .ok expr)
          arguments exprs ∧
        next = reader.push closing (.call function.name exprs) := by
  have hne : arguments ≠ [] := by
    rintro rfl
    exact absurd harity (Nat.ne_of_lt function.arity_pos)
  have hname := reads_name function hcalled
  have harguments := @reads_arguments_iff function arguments [] reader next opening rfl hne
    (by simpa using harity) hplain henclosed
  simp only [List.nil_append] at harguments
  change Reads reader ([⟨.identifier, function.name⟩, opening] ++ (_ ++ [closing])) next ↔ _
  rw [reads_append_iff, ← harguments]
  constructor
  · rintro ⟨mid, hmid, hreads⟩
    rwa [hmid.unique hname] at hreads
  · exact fun hreads => ⟨_, hname, hreads⟩

end Reader

end Reckoner
