import Reckoner.Token.CallRule

namespace Reckoner

theorem map_eq_ok_iff {ε α β : Type} {f : α → β} {result : Except ε α} {value : β} :
    result.map f = .ok value ↔ ∃ found, result = .ok found ∧ value = f found := by
  cases result <;> simp [Except.map, eq_comm]

theorem map_eq_error_iff {ε α β : Type} {f : α → β} {result : Except ε α} {error : ε} :
    result.map f = .error error ↔ result = .error error := by
  cases result <;> simp [Except.map]

namespace Function

theorem name_of_named? {name : String} {function : Function} (h : named? name = some function) :
    function.name = name := by
  unfold named? at h
  simpa using List.find?_some h

@[simp] theorem named?_name (function : Function) : named? function.name = some function := by
  cases function <;> rfl

theorem name_injective {function other : Function} (h : function.name = other.name) :
    function = other := by
  have hnamed : named? function.name = named? other.name := congrArg named? h
  simpa using hnamed

theorem arity_pos (function : Function) : 0 < function.arity := by
  cases function <;> decide

end Function

namespace Token

-- The token that stands before whatever follows the given ones.
def after (previous : Option Token) : List Token → Option Token
  | [] => previous
  | token :: rest => after (some token) rest

@[simp] theorem after_nil (previous : Option Token) : after previous [] = previous := rfl

@[simp] theorem after_cons (previous : Option Token) (token : Token) (rest : List Token) :
    after previous (token :: rest) = after (some token) rest := rfl

@[simp] theorem after_append (previous : Option Token) (front back : List Token) :
    after previous (front ++ back) = after (after previous front) back := by
  induction front generalizing previous with
  | nil => rfl
  | cons token front ih => exact ih (some token)

theorem after_eq (previous : Option Token) (tokens : List Token) :
    after previous tokens = tokens.getLast?.or previous := by
  induction tokens generalizing previous with
  | nil => rfl
  | cons token rest ih =>
      rw [after_cons, ih, List.getLast?_cons]
      cases rest.getLast? <;> rfl

theorem after_none (tokens : List Token) : after none tokens = tokens.getLast? := by
  rw [after_eq, Option.or_none]

namespace CallRule

@[simp] theorem calledBy_none : calledBy none = none := rfl

theorem calledBy_of_kind_ne {token : Token} (h : token.kind ≠ .identifier) :
    calledBy (some token) = none := by
  simp [calledBy, h]

theorem calledBy_after {previous other : Option Token} (h : calledBy previous = calledBy other)
    (tokens : List Token) : calledBy (after previous tokens) = calledBy (after other tokens) := by
  cases tokens with
  | nil => exact h
  | cons token rest => rfl

theorem calledBy_identifier {token : Token} (h : token.kind = .identifier) :
    calledBy (some token) = Function.named? token.lexeme := by
  simp [calledBy, h]

theorem kind_of_calledBy {token : Token} {function : Function}
    (h : calledBy (some token) = some function) : token.kind = .identifier := by
  by_cases hkind : token.kind = .identifier
  · exact hkind
  · rw [calledBy_of_kind_ne hkind] at h
    cases h

-- No function goes without arguments, so that adjacent brackets are never right.
theorem count_of_close {previous : Option Token} {span : Span}
    (h : close previous (some span) = .ok ()) : span.commas + 1 = span.function.arity := by
  have hpos := span.function.arity_pos
  have hcount : argumentCount previous span = span.function.arity := by
    simp only [close] at h
    split at h
    · assumption
    · cases h
  unfold argumentCount at hcount
  split at hcount <;> omega

-- The rule at one token, with no look at the next one. A name without its
-- bracket is found out by the token in the bracket's place.
def scanOne (previous : Option Token) (token : Token) (spans : List (Option Span)) :
    Except EvalError (List (Option Span)) :=
  match calledBy previous with
  | some function =>
      if token.kind = .bracketOpen then .ok (some ⟨function, 0⟩ :: spans)
      else .error (.malformedFunctionCall function.name)
  | none =>
      match token.kind with
      | .bracketOpen => .ok (none :: spans)
      | .comma => .ok (countComma spans)
      | .bracketClose =>
          match spans with
          | [] => .ok []
          | span :: outer => (close previous span).map fun _ => outer
      | .number | .operator | .identifier => .ok spans

def scan (previous : Option Token) (spans : List (Option Span)) :
    List Token → Except EvalError (List (Option Span))
  | [] => .ok spans
  | token :: rest => (scanOne previous token spans).bind fun spans => scan (some token) spans rest

theorem scan_cons_eq_ok_iff {previous : Option Token} {spans last : List (Option Span)}
    {token : Token} {rest : List Token} :
    scan previous spans (token :: rest) = .ok last ↔
      ∃ next, scanOne previous token spans = .ok next ∧ scan (some token) next rest = .ok last := by
  rw [scan]
  cases scanOne previous token spans <;> simp [Except.bind]

-- What is left to be said when the tokens are at their end.
def final (previous : Option Token) (spans : List (Option Span)) : Except EvalError Unit :=
  match calledBy previous with
  | some function => .error (.malformedFunctionCall function.name)
  | none => unclosed spans

theorem final_congr {previous other : Option Token} (h : calledBy previous = calledBy other)
    (spans : List (Option Span)) : final previous spans = final other spans := by
  unfold final
  rw [h]

theorem scanOne_of_calledBy {previous : Option Token} {function : Function}
    (h : calledBy previous = some function) (token : Token) (spans : List (Option Span)) :
    scanOne previous token spans =
      if token.kind = .bracketOpen then .ok (some ⟨function, 0⟩ :: spans)
      else .error (.malformedFunctionCall function.name) := by
  simp [scanOne, h]

theorem eq_of_scanOne_of_calledBy {previous : Option Token} {function : Function} {token : Token}
    {spans next : List (Option Span)} (h : calledBy previous = some function)
    (hs : scanOne previous token spans = .ok next) :
    token.kind = .bracketOpen ∧ next = some ⟨function, 0⟩ :: spans := by
  rw [scanOne_of_calledBy h] at hs
  split at hs
  · rename_i hk
    exact ⟨hk, (Except.ok.inj hs).symm⟩
  · cases hs

-- Where no bracket opens, no name is waiting for one.
theorem calledBy_of_scanOne {previous : Option Token} {token : Token}
    {spans next : List (Option Span)} (hs : scanOne previous token spans = .ok next)
    (hk : token.kind ≠ .bracketOpen) : calledBy previous = none := by
  cases hp : calledBy previous with
  | none => rfl
  | some function => exact absurd (eq_of_scanOne_of_calledBy hp hs).1 hk

-- Apart from names, which look ahead, the rule goes from token to token.
private theorem checkFrom_cons (spans : List (Option Span)) (previous : Option Token)
    (token : Token) (rest : List Token) (hk : token.kind ≠ .identifier)
    (h : (calledBy previous).isSome → token.kind = .bracketOpen) :
    checkFrom spans previous (token :: rest) =
      (scanOne previous token spans).bind fun spans => checkFrom spans (some token) rest := by
  cases hp : calledBy previous with
  | some function =>
      have ho := h (by simp [hp])
      simp [checkFrom, scanOne, ho, hp, Except.bind]
  | none =>
      cases hc : token.kind with
      | identifier => exact absurd hc hk
      | bracketClose =>
          cases spans with
          | nil => simp [checkFrom, scanOne, hc, hp, Except.bind]
          | cons span outer =>
              simp only [checkFrom, scanOne, hc, hp]
              cases close previous span <;> rfl
      | bracketOpen | comma | number | operator =>
          simp [checkFrom, scanOne, hc, hp, Except.bind]

-- Looking ahead to the bracket and looking back to the name find the same
-- faults in the same order.
theorem checkFrom_eq_scan (spans : List (Option Span)) (previous : Option Token)
    (tokens : List Token) (h : (calledBy previous).isSome → isOpening tokens.head?) :
    checkFrom spans previous tokens =
      (scan previous spans tokens).bind (final (after previous tokens)) := by
  induction tokens generalizing spans previous with
  | nil =>
      cases hp : calledBy previous with
      | none => simp [checkFrom, scan, final, Except.bind, hp]
      | some function => simp [hp, isOpening] at h
  | cons token rest ih =>
      by_cases hk : token.kind = .identifier
      · have hp : calledBy previous = none := by
          cases hc : calledBy previous with
          | none => rfl
          | some function => simp [hc, isOpening, hk] at h
        have hc := calledBy_identifier hk
        simp only [checkFrom, hk, scan, scanOne, hp, after_cons, Except.bind, Function.isName]
        rcases Option.eq_none_or_eq_some (Function.named? token.lexeme) with hf | ⟨function, hf⟩
        · simpa [hf, Except.bind] using ih spans (some token) (by simp [hc, hf])
        · have hn := Function.name_of_named? hf
          cases ho : isOpening rest.head? with
          | true => simpa [hf, Except.bind] using ih spans (some token) (fun _ => ho)
          | false =>
              cases rest with
              | nil => simp [hf, scan, final, hc, hn]
              | cons next rest =>
                  have hb : next.kind ≠ .bracketOpen := by simpa [isOpening] using ho
                  simp [hf, scan, scanOne_of_calledBy (hc.trans hf), hb, hn, Except.bind]
      · rw [checkFrom_cons _ _ _ _ hk (by simpa [isOpening] using h), scan]
        cases scanOne previous token spans with
        | error error => rfl
        | ok spans => exact ih spans (some token) (by simp [calledBy_of_kind_ne hk])

theorem check_eq_scan (tokens : List Token) :
    check tokens = (scan none [] tokens).bind (final (after none tokens)) :=
  checkFrom_eq_scan [] none tokens (by simp)

theorem check_eq_ok_iff (tokens : List Token) :
    check tokens = .ok () ↔
      ∃ spans, scan none [] tokens = .ok spans ∧ final (after none tokens) spans = .ok () := by
  rw [check_eq_scan]
  cases scan none [] tokens with
  | error error => simp [Except.bind]
  | ok spans => simp [Except.bind]

theorem final_eq_ok_iff (previous : Option Token) (spans : List (Option Span)) :
    final previous spans = .ok () ↔ calledBy previous = none ∧ ∀ span ∈ spans, span = none := by
  unfold final
  cases calledBy previous with
  | some function => simp
  | none =>
      have hl : (spans.filterMap id).getLast? = none ↔ ∀ span ∈ spans, span = none := by
        simp
      rw [← hl]
      unfold unclosed
      cases (spans.filterMap id).getLast? <;> simp

-- The rule blames an expression for a call without its brackets or for the
-- number of its arguments, and for nothing else.
def Blames (error : EvalError) : Prop :=
  error.kind = .malformedFunctionCall ∨ error.kind = .arity

theorem blames_of_close {previous : Option Token} {span : Option Span} {error : EvalError}
    (h : close previous span = .error error) : Blames error := by
  cases span with
  | none => cases h
  | some span =>
      simp only [close] at h
      split at h
      · cases h
      · cases h
        exact .inr rfl

theorem blames_of_scanOne {previous : Option Token} {token : Token} {spans : List (Option Span)}
    {error : EvalError} (h : scanOne previous token spans = .error error) : Blames error := by
  unfold scanOne at h
  split at h
  · split at h
    · cases h
    · cases h
      exact .inl rfl
  · split at h
    · cases h
    · cases h
    · cases spans with
      | nil => cases h
      | cons span outer =>
          cases hclose : close previous span with
          | error failure =>
              simp only [hclose, Except.map, Except.error.injEq] at h
              subst h
              exact blames_of_close hclose
          | ok => simp [hclose, Except.map] at h
    · cases h
    · cases h
    · cases h

theorem blames_of_scan {previous : Option Token} {tokens : List Token}
    {spans : List (Option Span)} {error : EvalError}
    (h : scan previous spans tokens = .error error) : Blames error := by
  induction tokens generalizing previous spans with
  | nil => cases h
  | cons token rest ih =>
      rw [scan] at h
      cases hone : scanOne previous token spans with
      | error failure =>
          simp only [hone, Except.bind, Except.error.injEq] at h
          subst h
          exact blames_of_scanOne hone
      | ok next =>
          rw [hone] at h
          exact ih h

theorem blames_of_final {previous : Option Token} {spans : List (Option Span)} {error : EvalError}
    (h : final previous spans = .error error) : Blames error := by
  unfold final at h
  split at h
  · cases h
    exact .inl rfl
  · unfold unclosed at h
    split at h
    · cases h
      exact .inl rfl
    · cases h

theorem blames_of_check {tokens : List Token} {error : EvalError}
    (h : check tokens = .error error) : Blames error := by
  rw [check_eq_scan] at h
  cases hscan : scan none [] tokens with
  | error failure =>
      simp only [hscan, Except.bind, Except.error.injEq] at h
      subst h
      exact blames_of_scan hscan
  | ok spans =>
      rw [hscan] at h
      exact blames_of_final h

end CallRule

end Token

end Reckoner
