import Reckoner.Proofs.Reader

namespace Reckoner

namespace Token.CallRule

variable {previous : Option Token} {spans last : List (Option Span)} {front back before : List Token}

theorem scan_append (previous : Option Token) (spans : List (Option Span))
    (front back : List Token) :
    scan previous spans (front ++ back) =
      (scan previous spans front).bind fun mid => scan (after previous front) mid back := by
  induction front generalizing previous spans with
  | nil => rfl
  | cons token front ih =>
      rw [List.cons_append, scan, scan, after_cons]
      cases scanOne previous token spans with
      | error error => rfl
      | ok next => exact ih (some token) next

theorem exists_scan_of_append (h : scan previous spans (front ++ back) = .ok last) :
    ∃ mid, scan previous spans front = .ok mid ∧
      scan (after previous front) mid back = .ok last := by
  rw [scan_append] at h
  cases hfront : scan previous spans front with
  | error error => simp [hfront, Except.bind] at h
  | ok mid =>
      rw [hfront] at h
      exact ⟨mid, rfl, h⟩

-- The open brackets that the check has come to behind the tokens. It goes on
-- with them whatever follows.
structure Holds (before : List Token) (spans : List (Option Span)) : Prop where
  scanned : scan none [] before = .ok spans
  onward : ∀ rest, check (before ++ rest) = checkFrom spans before.getLast? rest

theorem holds_of_scan (hscan : scan none [] before = .ok spans)
    (hcalled : calledBy before.getLast? = none) : Holds before spans where
  scanned := hscan
  onward rest := by
    rw [check_eq_scan, scan_append, hscan, after_append, after_none,
      checkFrom_eq_scan spans before.getLast? rest (by simp [hcalled])]
    rfl

end Token.CallRule

namespace Stacks

open Token.CallRule (Span calledBy scan scanOne)

theorem readFrom_append {previous : Option Token} {state mid : Stacks} {front : List Token}
    (h : readFrom previous state front = .ok mid) (back : List Token) :
    readFrom previous state (front ++ back) = readFrom (Token.after previous front) mid back := by
  fun_induction readFrom previous state front with
  | case1 =>
      cases h
      rfl
  | case2 => cases h
  | case3 => cases h
  | case4 previous state token next hstep hkind bracket rest ih =>
      rw [List.cons_append, List.cons_append, readFrom, hstep]
      simp only [hkind, ite_true]
      exact ih h
  | case5 previous state token rest next hstep hkind ih =>
      rw [List.cons_append, readFrom, hstep]
      simp only [hkind, ite_false]
      exact ih h

-- The stacks that the reading has come to behind the tokens. It goes on with
-- them whatever follows.
def Reaches (before : List Token) (state : Stacks) : Prop :=
  ∀ rest, readFrom none empty (before ++ rest) = readFrom before.getLast? state rest

theorem reaches_iff {before : List Token} {state : Stacks} :
    Reaches before state ↔ readFrom none empty before = .ok state := by
  constructor
  · intro h
    have hnil := h []
    rwa [List.append_nil] at hnil
  · intro h rest
    rw [readFrom_append h, Token.after_none]

theorem Reaches.unique {before : List Token} {state other : Stacks} (h : Reaches before state)
    (hother : Reaches before other) : state = other :=
  Except.ok.inj ((reaches_iff.mp h).symm.trans (reaches_iff.mp hother))

-- The reading passes over the token behind a name. The check has seen to it that
-- this is no name itself.
theorem calledBy_of_readFrom {previous : Option Token} {state last : Stacks} {tokens : List Token}
    {spans next : List (Option Span)} (hcalled : calledBy previous = none)
    (hscan : scan previous spans tokens = .ok next)
    (hread : readFrom previous state tokens = .ok last) :
    calledBy (Token.after previous tokens) = none := by
  fun_induction readFrom previous state tokens generalizing spans with
  | case1 => exact hcalled
  | case2 => cases hread
  | case3 => cases hread
  | case4 previous state token _ hstep hkind bracket rest ih =>
      simp only [step, hkind] at hstep
      obtain ⟨function, hname, -⟩ := openCall_cases hstep
      have hfunction : calledBy (some token) = some function := by
        rw [Token.CallRule.calledBy_identifier hkind, ← hname, Function.named?_name]
      obtain ⟨mid, -, hscan⟩ := Token.CallRule.scan_cons_eq_ok_iff.mp hscan
      obtain ⟨inner, hone, hscan⟩ := Token.CallRule.scan_cons_eq_ok_iff.mp hscan
      have hopening := (Token.CallRule.eq_of_scanOne_of_calledBy hfunction hone).1
      exact ih (Token.CallRule.calledBy_of_kind_ne (by simp [hopening])) hscan hread
  | case5 previous state token rest _ hstep hkind ih =>
      obtain ⟨mid, -, hscan⟩ := Token.CallRule.scan_cons_eq_ok_iff.mp hscan
      exact ih (Token.CallRule.calledBy_of_kind_ne hkind) hscan hread

end Stacks

namespace Reader

open Token.CallRule (Span calledBy scan)

theorem reads_of_reaches {before : List Token} {spans : List (Option Span)} {state : Stacks}
    (hscan : scan none [] before = .ok spans) (h : Stacks.Reaches before state) :
    calledBy before.getLast? = none ∧ Reads start before ⟨before.getLast?, spans, state⟩ := by
  have hread := Stacks.reaches_iff.mp h
  have hcalled := Stacks.calledBy_of_readFrom rfl hscan hread
  have hall := Stacks.readFrom_eq_receiveAll none Stacks.empty before [] spans rfl hscan hcalled
  rw [Token.after_none] at hcalled
  exact ⟨hcalled, reads_iff.mpr ⟨(Token.after_none before).symm, hscan, hall.symm.trans hread⟩⟩

theorem Reads.eq_of_reaches {before : List Token} {reader : Reader} {state : Stacks}
    (h : Reads start before reader) (hreaches : Stacks.Reaches before state) :
    reader.state = state := by
  have hreads := (reads_of_reaches (reads_iff.mp h).2.1 hreaches).2
  rw [h.unique hreads]

theorem Reads.holds {before : List Token} {reader : Reader} (h : Reads start before reader)
    (hcalled : calledBy reader.previous = none) : Token.CallRule.Holds before reader.spans := by
  obtain ⟨hprevious, hscan, -⟩ := reads_iff.mp h
  rw [hprevious, start, Token.after_none] at hcalled
  exact Token.CallRule.holds_of_scan hscan hcalled

theorem Reads.reaches {before : List Token} {reader : Reader} (h : Reads start before reader)
    (hcalled : calledBy reader.previous = none) : Stacks.Reaches before reader.state := by
  obtain ⟨hprevious, hscan, hall⟩ := reads_iff.mp h
  rw [hprevious] at hcalled
  exact Stacks.reaches_iff.mpr
    ((Stacks.readFrom_eq_receiveAll none Stacks.empty before [] _ rfl hscan hcalled).trans hall)

end Reader

end Reckoner
