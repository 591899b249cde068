import Reckoner.Proofs.Token.Scan

namespace Reckoner.Token

open CallRule

-- With so many brackets open before them, the tokens close every bracket and
-- have no comma outside of all brackets.
def enclosed (depth : Nat) : List Token → Bool
  | [] => depth == 0
  | token :: rest =>
      match token.kind with
      | .bracketOpen => enclosed (depth + 1) rest
      | .bracketClose => depth != 0 && enclosed (depth - 1) rest
      | .comma => depth != 0 && enclosed depth rest
      | .number | .operator | .identifier => enclosed depth rest

-- Commas and closing brackets belong to a bracket that is open.
def Inside (token : Token) (spans : List (Option Span)) : Prop :=
  token.kind = .comma ∨ token.kind = .bracketClose → spans ≠ []

variable {previous other : Option Token} {token : Token} {rest : List Token}
  {spans next outer : List (Option Span)}

theorem inside_of_enclosed (h : enclosed spans.length (token :: rest)) : token.Inside spans := by
  rintro (hk | hk) rfl <;> simp [enclosed, hk] at h

theorem length_countComma (spans : List (Option Span)) :
    (countComma spans).length = spans.length := by
  unfold countComma
  split <;> rfl

theorem enclosed_of_scanOne (h : enclosed spans.length (token :: rest))
    (hscan : scanOne previous token spans = .ok next) : enclosed next.length rest := by
  cases hp : calledBy previous with
  | some function =>
      obtain ⟨hk, rfl⟩ := eq_of_scanOne_of_calledBy hp hscan
      simpa [enclosed, hk] using h
  | none =>
      simp only [scanOne, hp] at hscan
      cases hk : token.kind with
      | bracketOpen =>
          simp only [hk, Except.ok.injEq] at hscan
          subst hscan
          simpa [enclosed, hk] using h
      | comma =>
          simp only [hk, Except.ok.injEq] at hscan
          subst hscan
          simp only [enclosed, hk, Bool.and_eq_true] at h
          rw [length_countComma]
          exact h.2
      | bracketClose =>
          simp only [enclosed, hk, Bool.and_eq_true] at h
          cases spans with
          | nil => simp at h
          | cons span spans =>
              simp only [hk, map_eq_ok_iff] at hscan
              obtain ⟨-, -, rfl⟩ := hscan
              exact h.2
      | number | operator | identifier =>
          simp only [hk, Except.ok.injEq] at hscan
          subst hscan
          simpa [enclosed, hk] using h

-- Inside the brackets that it opens itself, a text does not see those around it.
theorem scanOne_append (h : token.Inside spans) :
    scanOne previous token (spans ++ outer) =
      (scanOne previous token spans).map (· ++ outer) := by
  cases hp : calledBy previous with
  | some function =>
      simp only [scanOne_of_calledBy hp]
      split <;> rfl
  | none =>
      cases hk : token.kind with
      | comma | bracketClose =>
          cases spans with
          | nil => exact absurd rfl (h (by simp [hk]))
          | cons span spans =>
              cases span <;> simp only [scanOne, hp, hk, List.cons_append, countComma, Except.map]
              all_goals cases close previous _ <;> rfl
      | bracketOpen | number | operator | identifier =>
          simp only [scanOne, hp, hk, Except.map, List.cons_append]

-- What ends at depth zero does not end with an opening bracket.
theorem isOpening_after {depth : Nat} (h : enclosed depth (token :: rest)) :
    isOpening (after previous (token :: rest)) = false := by
  induction rest generalizing depth token previous with
  | nil =>
      cases hk : token.kind <;> simp_all [enclosed, isOpening]
  | cons next rest ih =>
      rw [after_cons]
      rw [enclosed] at h
      cases hk : token.kind with
      | bracketClose | comma =>
          simp only [hk, Bool.and_eq_true] at h
          exact ih h.2
      | bracketOpen | number | operator | identifier =>
          simp only [hk] at h
          exact ih h

-- What reading on depends on of the token before.
structure Alike (previous other : Option Token) (tokens : List Token) : Prop where
  called : calledBy previous = calledBy other
  unary : isUnaryPosition previous = isUnaryPosition other
  opening : tokens.head?.all (·.kind != .bracketClose) ∨ isOpening previous = isOpening other

-- Only a closing bracket looks for the opening one beside it.
theorem scanOne_congr (hcalled : calledBy previous = calledBy other)
    (hopening : token.kind = .bracketClose → isOpening previous = isOpening other) :
    scanOne previous token spans = scanOne other token spans := by
  have hclose (hk : token.kind = .bracketClose) (span : Option Span) :
      close previous span = close other span := by
    cases span with
    | none => rfl
    | some span =>
        have hcount : argumentCount previous span = argumentCount other span := by
          simp [argumentCount, hopening hk]
        simp only [close, hcount]
  unfold scanOne
  rw [hcalled]
  cases hk : token.kind with
  | bracketClose => simp only [hclose hk]
  | bracketOpen | number | operator | identifier | comma => rfl

theorem scanOne_alike (h : Alike previous other (token :: rest)) :
    scanOne previous token spans = scanOne other token spans :=
  scanOne_congr h.called fun hk => by simpa [hk] using h.opening

theorem scan_alike {tokens : List Token} (h : Alike previous other tokens) :
    scan previous spans tokens = scan other spans tokens := by
  cases tokens with
  | nil => rfl
  | cons token rest => rw [scan, scan, scanOne_alike h]

theorem calledBy_of_isUnaryPosition (h : isUnaryPosition previous) :
    calledBy previous = none := by
  cases previous with
  | none => rfl
  | some token =>
      apply calledBy_of_kind_ne
      intro hk
      simp [isUnaryPosition, hk] at h

-- Behind an opening bracket or a comma an argument begins as a text does.
theorem alike_none {tokens : List Token} (hunary : isUnaryPosition previous)
    (h : enclosed 0 tokens) : Alike previous none tokens where
  called := calledBy_of_isUnaryPosition hunary
  unary := hunary
  opening := by
    cases tokens with
    | nil => exact .inl rfl
    | cons token rest =>
        left
        cases hk : token.kind <;> simp_all [enclosed]

-- What a token does not see, the tokens do not see.
theorem scan_outer {tokens : List Token} (h : enclosed spans.length tokens) :
    scan previous (spans ++ outer) tokens = (scan previous spans tokens).map (· ++ outer) := by
  induction tokens generalizing previous spans with
  | nil => rfl
  | cons token rest ih =>
      rw [scan, scan, scanOne_append (inside_of_enclosed h)]
      cases hscan : scanOne previous token spans with
      | error error => rfl
      | ok next => exact ih (enclosed_of_scanOne h hscan)

theorem eq_nil_of_scan {tokens : List Token} (h : enclosed spans.length tokens)
    (hscan : scan previous spans tokens = .ok next) : next = [] := by
  induction tokens generalizing previous spans with
  | nil =>
      cases hscan
      simpa [enclosed] using h
  | cons token rest ih =>
      obtain ⟨mid, hone, hrest⟩ := scan_cons_eq_ok_iff.mp hscan
      exact ih (enclosed_of_scanOne h hone) hrest

-- An argument is checked as a text is, and leaves the brackets around it as they are.
theorem scan_argument {argument : List Token} (hunary : isUnaryPosition previous)
    (h : enclosed 0 argument) :
    scan previous outer argument = (scan none [] argument).map fun _ => outer := by
  have houter : scan none ([] ++ outer) argument = (scan none [] argument).map (· ++ outer) :=
    scan_outer h
  rw [scan_alike (alike_none hunary h), ← List.nil_append outer, houter]
  cases hscan : scan none [] argument with
  | error error => rfl
  | ok last =>
      have hdepth : enclosed ([] : List (Option Span)).length argument := h
      obtain rfl := eq_nil_of_scan hdepth hscan
      rfl

end Reckoner.Token
