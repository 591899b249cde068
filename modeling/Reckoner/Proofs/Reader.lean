import Reckoner.Expr.Grammar
import Reckoner.Proofs.Stacks.Receive

namespace Reckoner

open Token.CallRule (Span calledBy scan scanOne final)
open Expr.Grammar (opening)

-- How far the two passes have come: the token just read, the open brackets of
-- the call rule, and the stacks.
structure Reader where
  previous : Option Token
  spans : List (Option Span)
  state : Stacks

namespace Reader

def start : Reader := ⟨none, [], Stacks.empty⟩

-- The reader after an operand that is complete with the given token.
def push (token : Token) (expr : Expr) (reader : Reader) : Reader :=
  ⟨some token, reader.spans,
    { reader.state with operands := expr :: reader.state.operands }⟩

-- The reader inside a call of which the given arguments are finished.
def within (function : Function) (finished : List Expr) (previous : Token) (reader : Reader) :
    Reader :=
  ⟨some previous, some ⟨function, finished.length⟩ :: reader.spans,
    ⟨finished.reverse ++ reader.state.operands, .call function.name :: reader.state.waiting,
      ⟨function.name, reader.state.operands.length, finished.length⟩ :: reader.state.calls⟩⟩

structure Steps (reader : Reader) (token : Token) (next : Reader) : Prop where
  previous : next.previous = some token
  spans : scanOne reader.previous token reader.spans = .ok next.spans
  state : Stacks.receive reader.previous token reader.state = .ok next.state

inductive Reads : Reader → List Token → Reader → Prop
  | nil (reader : Reader) : Reads reader [] reader
  | cons {reader next last : Reader} {token : Token} {rest : List Token} :
      Steps reader token next → Reads next rest last → Reads reader (token :: rest) last

theorem reads_nil_iff {reader last : Reader} : Reads reader [] last ↔ last = reader := by
  constructor
  · rintro ⟨⟩
    rfl
  · rintro rfl
    exact .nil last

theorem reads_cons_iff {reader last : Reader} {token : Token} {rest : List Token} :
    Reads reader (token :: rest) last ↔ ∃ next, Steps reader token next ∧ Reads next rest last := by
  constructor
  · intro h
    cases h with
    | cons hstep hrest => exact ⟨_, hstep, hrest⟩
  · rintro ⟨next, hstep, hrest⟩
    exact .cons hstep hrest

theorem reads_singleton_iff {reader last : Reader} {token : Token} :
    Reads reader [token] last ↔ Steps reader token last := by
  simp [reads_cons_iff, reads_nil_iff]

theorem reads_append_iff {reader last : Reader} {front back : List Token} :
    Reads reader (front ++ back) last ↔ ∃ mid, Reads reader front mid ∧ Reads mid back last := by
  induction front generalizing reader with
  | nil => simp [reads_nil_iff]
  | cons token front ih =>
      simp only [List.cons_append, reads_cons_iff, ih]
      constructor
      · rintro ⟨next, hstep, mid, hfront, hback⟩
        exact ⟨mid, ⟨next, hstep, hfront⟩, hback⟩
      · rintro ⟨mid, ⟨next, hstep, hfront⟩, hback⟩
        exact ⟨next, hstep, mid, hfront, hback⟩

theorem reads_iff {reader last : Reader} {tokens : List Token} :
    Reads reader tokens last ↔
      last.previous = Token.after reader.previous tokens ∧
      scan reader.previous reader.spans tokens = .ok last.spans ∧
      Stacks.receiveAll reader.previous reader.state tokens = .ok last.state := by
  induction tokens generalizing reader with
  | nil =>
      cases reader
      cases last
      simp [reads_nil_iff, scan, Stacks.receiveAll, eq_comm]
  | cons token rest ih =>
      rw [reads_cons_iff]
      constructor
      · rintro ⟨next, ⟨hp, hs, hr⟩, hrest⟩
        obtain ⟨hp', hs', hr'⟩ := ih.mp hrest
        rw [hp] at hp' hs' hr'
        refine ⟨hp', ?_, ?_⟩
        · simpa [scan, hs, Except.bind] using hs'
        · simpa [Stacks.receiveAll, hr, Except.bind] using hr'
      · rintro ⟨hp, hs, hr⟩
        rw [Stacks.receiveAll] at hr
        obtain ⟨spans, hone, hs⟩ := Token.CallRule.scan_cons_eq_ok_iff.mp hs
        cases hread : Stacks.receive reader.previous token reader.state with
        | error failure => simp [hread, Except.bind] at hr
        | ok state =>
            rw [hread] at hr
            exact ⟨⟨some token, spans, state⟩, ⟨rfl, hone, hread⟩, ih.mpr ⟨hp, hs, hr⟩⟩

theorem Reads.unique {reader last other : Reader} {tokens : List Token}
    (h : Reads reader tokens last) (hother : Reads reader tokens other) : last = other := by
  obtain ⟨hp, hs, hr⟩ := reads_iff.mp h
  obtain ⟨hp', hs', hr'⟩ := reads_iff.mp hother
  obtain ⟨previous, spans, state⟩ := last
  obtain ⟨previous', spans', state'⟩ := other
  simp only at hp hs hr hp' hs' hr'
  rw [hs] at hs'
  rw [hr] at hr'
  cases hs'
  cases hr'
  rw [hp, hp']

-- The reader with its open brackets and its stacks changed.
def map (onSpans : List (Option Span) → List (Option Span)) (onState : Stacks → Stacks)
    (reader : Reader) : Reader :=
  ⟨reader.previous, onSpans reader.spans, onState reader.state⟩

section

variable {onSpans : List (Option Span) → List (Option Span)} {onState : Stacks → Stacks}

theorem steps_map_iff {reader next : Reader} {token : Token}
    (hscan : scanOne reader.previous token (onSpans reader.spans) =
      (scanOne reader.previous token reader.spans).map onSpans)
    (hreceive : Stacks.receive reader.previous token (onState reader.state) =
      (Stacks.receive reader.previous token reader.state).map onState) :
    Steps (reader.map onSpans onState) token next ↔
      ∃ inner, Steps reader token inner ∧ next = inner.map onSpans onState := by
  constructor
  · obtain ⟨previous, spans, state⟩ := next
    rintro ⟨hp, hs, hr⟩
    obtain ⟨innerSpans, hspans, rfl⟩ := map_eq_ok_iff.mp (hscan.symm.trans hs)
    obtain ⟨innerState, hstate, rfl⟩ := map_eq_ok_iff.mp (hreceive.symm.trans hr)
    exact ⟨⟨previous, innerSpans, innerState⟩, ⟨hp, hspans, hstate⟩, rfl⟩
  · rintro ⟨inner, ⟨hp, hs, hr⟩, rfl⟩
    exact ⟨hp, hscan.trans (map_eq_ok_iff.mpr ⟨_, hs, rfl⟩),
      hreceive.trans (map_eq_ok_iff.mpr ⟨_, hr, rfl⟩)⟩

-- A change that every step carries along is carried along by the whole reading.
-- What the steps need for it has to be kept up by them.
theorem reads_map_iff {Kept : Reader → List Token → Prop}
    (hscan : ∀ reader token rest, Kept reader (token :: rest) →
      scanOne reader.previous token (onSpans reader.spans) =
        (scanOne reader.previous token reader.spans).map onSpans)
    (hreceive : ∀ reader token rest, Kept reader (token :: rest) →
      Stacks.receive reader.previous token (onState reader.state) =
        (Stacks.receive reader.previous token reader.state).map onState)
    (hkept : ∀ reader token rest next, Kept reader (token :: rest) → Steps reader token next →
      Kept next rest)
    {reader last : Reader} {tokens : List Token} (h : Kept reader tokens) :
    Reads (reader.map onSpans onState) tokens last ↔
      ∃ inner, Reads reader tokens inner ∧ last = inner.map onSpans onState := by
  induction tokens generalizing reader with
  | nil => simp [reads_nil_iff]
  | cons token rest ih =>
      have hstep {next : Reader} :=
        @steps_map_iff _ _ _ next _ (hscan reader token rest h) (hreceive reader token rest h)
      simp only [reads_cons_iff, hstep]
      constructor
      · rintro ⟨_, ⟨inner, hinner, rfl⟩, hreads⟩
        obtain ⟨found, hfound, hlast⟩ := (ih (hkept _ _ _ _ h hinner)).mp hreads
        exact ⟨found, ⟨inner, hinner, hfound⟩, hlast⟩
      · rintro ⟨found, ⟨inner, hinner, hfound⟩, hlast⟩
        exact ⟨_, ⟨inner, hinner, rfl⟩, (ih (hkept _ _ _ _ h hinner)).mpr ⟨found, hfound, hlast⟩⟩

end

theorem reads_number {reader : Reader} {lexeme : String} {value : Binary64}
    (hread : Decimal.read? lexeme = some value) (hp : calledBy reader.previous = none) :
    Reads reader [⟨.number, lexeme⟩] (reader.push ⟨.number, lexeme⟩ (.number value)) := by
  refine .cons ⟨rfl, ?_, ?_⟩ (.nil _)
  · simp [scanOne, hp, push]
  · simp [Stacks.receive, Stacks.number, hread, push]

theorem reads_name {reader : Reader} (function : Function)
    (hp : calledBy reader.previous = none) :
    Reads reader [⟨.identifier, function.name⟩, opening] (reader.within function [] opening) := by
  have hname : Steps reader ⟨.identifier, function.name⟩
      ⟨some ⟨.identifier, function.name⟩, reader.spans, reader.state⟩ :=
    ⟨rfl, by simp [scanOne, hp], by simp [Stacks.receive, Stacks.openCall_name, Except.map]⟩
  refine .cons hname (.cons ⟨rfl, ?_, ?_⟩ (.nil _))
  · simp [scanOne, calledBy, opening, within]
  · simp [Stacks.receive, calledBy, opening, within, Stacks.openCall_name]

end Reader

-- An expression comes of tokens when both passes get through them one by one
-- and one operand is left.
theorem Expr.ofTokens_eq_ok_iff {tokens : List Token} {expr : Expr} :
    Expr.ofTokens tokens = .ok expr ↔
      ∃ last, Reader.Reads Reader.start tokens last ∧
        final last.previous last.spans = .ok () ∧
        Stacks.finish last.state.waiting last.state.operands = .ok expr := by
  have haccept : Expr.ofTokens tokens = .ok expr ↔ Token.CallRule.check tokens = .ok () ∧
      ∃ state, Stacks.receiveAll none Stacks.empty tokens = .ok state ∧
        Stacks.finish state.waiting state.operands = .ok expr := by
    cases tokens with
    | nil => simp [Expr.ofTokens, Stacks.receiveAll, Stacks.empty, Stacks.finish]
    | cons token rest =>
        simp only [Expr.ofTokens, List.isEmpty_cons, Bool.false_eq_true, ite_false]
        cases hc : Token.CallRule.check (token :: rest) with
        | error error => simp
        | ok =>
            obtain ⟨spans, hs, hf⟩ := (Token.CallRule.check_eq_ok_iff _).mp hc
            have hl := ((Token.CallRule.final_eq_ok_iff _ _).mp hf).1
            rw [Stacks.readFrom_eq_receiveAll none _ _ [] spans rfl hs hl]
            cases Stacks.receiveAll none Stacks.empty (token :: rest) <;> simp
  rw [haccept, Token.CallRule.check_eq_ok_iff]
  constructor
  · rintro ⟨⟨spans, hs, hf⟩, state, hr, he⟩
    exact ⟨⟨_, spans, state⟩, Reader.reads_iff.mpr ⟨rfl, hs, hr⟩, hf, he⟩
  · rintro ⟨last, hreads, hf, he⟩
    obtain ⟨hp, hs, hr⟩ := Reader.reads_iff.mp hreads
    exact ⟨⟨last.spans, hs, hp ▸ hf⟩, last.state, hr, he⟩

end Reckoner
