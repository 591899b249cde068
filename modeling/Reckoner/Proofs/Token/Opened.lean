import Reckoner.Proofs.Token.Commas
import Reckoner.Proofs.Token.Scan

namespace Reckoner.Token.CallRule

variable {tokens group : List Token} {token opening closing : Token}
  {span : Option Span} {spans outer : List (Option Span)}

def addCommas (count : Nat) : List (Option Span) → List (Option Span)
  | some span :: rest => some { span with commas := span.commas + count } :: rest
  | spans => spans

@[simp] theorem addCommas_zero (spans : List (Option Span)) : addCommas 0 spans = spans := by
  cases spans with
  | nil => rfl
  | cons span outer => cases span <;> rfl

theorem addCommas_one (spans : List (Option Span)) : addCommas 1 spans = countComma spans := by
  cases spans with
  | nil => rfl
  | cons span outer => cases span <;> rfl

-- The open brackets of a text are those behind which nothing closes them. Each
-- comes with the call that it opens and the commas that are its own so far.
inductive Opened : List Token → List (Option Span) → Prop
  | nil {tokens : List Token} : Shut tokens → Opened tokens []
  | cons {before inner : List Token} {opening : Token} {spans : List (Option Span)} :
      Opened before spans → opening.kind = .bracketOpen → Balanced inner →
      Opened (before ++ opening :: inner)
        ((calledBy before.getLast?).map (⟨·, ownCommas inner⟩) :: spans)

-- The text of the innermost open bracket goes on.
theorem Opened.append_balanced (h : Opened tokens spans) (hgroup : Balanced group) :
    Opened (tokens ++ group) (addCommas (ownCommas group) spans) := by
  cases h with
  | nil hshut => exact .nil (hshut.append hgroup.shut)
  | @cons before inner opening spans hbefore hopening hinner =>
      have hcons := Opened.cons hbefore hopening (hinner.append hgroup)
      rw [ownCommas_append hinner] at hcons
      rw [List.append_assoc, List.cons_append]
      cases hcalled : calledBy before.getLast? with
      | none => rwa [hcalled] at hcons
      | some function => rwa [hcalled] at hcons

theorem Opened.concat_other (h : Opened tokens spans) (hopening : token.kind ≠ .bracketOpen)
    (hclosing : token.kind ≠ .bracketClose) (hcomma : token.kind ≠ .comma) :
    Opened (tokens ++ [token]) spans := by
  have happend := h.append_balanced (balanced_singleton hopening hclosing)
  rwa [ownCommas_singleton, if_neg hcomma, addCommas_zero] at happend

theorem Opened.concat_comma (h : Opened tokens spans) (hcomma : token.kind = .comma) :
    Opened (tokens ++ [token]) (countComma spans) := by
  have happend :=
    h.append_balanced (@balanced_singleton token (by simp [hcomma]) (by simp [hcomma]))
  rwa [ownCommas_singleton, if_pos hcomma, addCommas_one] at happend

theorem Opened.concat_opening (h : Opened tokens spans) (hopening : opening.kind = .bracketOpen) :
    Opened (tokens ++ [opening]) ((calledBy tokens.getLast?).map (⟨·, 0⟩) :: spans) :=
  .cons h hopening balanced_nil

theorem Opened.concat_stray (h : Opened tokens []) (hclosing : closing.kind = .bracketClose) :
    Opened (tokens ++ [closing]) [] := by
  cases h with
  | nil hshut => exact .nil (hshut.append (shut_singleton (by simp [hclosing])))

-- What stands in a bracket that is closed no longer counts.
theorem Opened.concat_closing (h : Opened tokens (span :: outer))
    (hclosing : closing.kind = .bracketClose) : Opened (tokens ++ [closing]) outer := by
  cases h with
  | @cons before inner opening _ hbefore hopening hinner =>
      have happend := hbefore.append_balanced (hinner.group hopening hclosing)
      rw [ownCommas_group hopening hclosing hinner, addCommas_zero] at happend
      simpa using happend

-- Token by token the check keeps to the open brackets.
theorem Opened.scanOne {before : List Token} {next : List (Option Span)} (h : Opened before spans)
    (hscan : scanOne before.getLast? token spans = .ok next) : Opened (before ++ [token]) next := by
  cases hcalled : calledBy before.getLast? with
  | some function =>
      obtain ⟨hkind, rfl⟩ := eq_of_scanOne_of_calledBy hcalled hscan
      have hopening := h.concat_opening hkind
      rwa [hcalled] at hopening
  | none =>
      simp only [CallRule.scanOne, hcalled] at hscan
      cases hkind : token.kind with
      | bracketOpen =>
          have hopening := h.concat_opening hkind
          simp only [hkind, Except.ok.injEq] at hscan
          rwa [hcalled, Option.map_none, hscan] at hopening
      | comma =>
          simp only [hkind, Except.ok.injEq] at hscan
          exact hscan ▸ h.concat_comma hkind
      | bracketClose =>
          cases spans with
          | nil =>
              simp only [hkind, Except.ok.injEq] at hscan
              exact hscan ▸ h.concat_stray hkind
          | cons span outer =>
              simp only [hkind, map_eq_ok_iff] at hscan
              obtain ⟨-, -, rfl⟩ := hscan
              exact h.concat_closing hkind
      | number | operator | identifier =>
          simp only [hkind, Except.ok.injEq] at hscan
          exact hscan ▸ h.concat_other (by simp [hkind]) (by simp [hkind]) (by simp [hkind])

theorem Opened.scan {before rest : List Token} {last : List (Option Span)} (h : Opened before spans)
    (hscan : scan before.getLast? spans rest = .ok last) : Opened (before ++ rest) last := by
  induction rest generalizing before spans with
  | nil =>
      cases hscan
      rwa [List.append_nil]
  | cons token rest ih =>
      obtain ⟨next, hone, hrest⟩ := scan_cons_eq_ok_iff.mp hscan
      have hlast : (before ++ [token]).getLast? = some token := List.getLast?_concat
      have hnext := ih (h.scanOne hone) (by rwa [hlast])
      rwa [List.append_assoc] at hnext

end Reckoner.Token.CallRule
