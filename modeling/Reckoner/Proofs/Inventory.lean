import Mathlib.Data.Multiset.Count
import Reckoner.Proofs.Stacks.Above
import Reckoner.Proofs.Stacks.Inventory

namespace Reckoner

open Token.CallRule (Span)
open Expr.Grammar (opening closing separator)

namespace Token

theorem map_some_values {tokens : List Token}
    (h : ∀ token ∈ tokens, token.kind = .number → (Decimal.read? token.lexeme).isSome) :
    (values tokens).map some =
      (tokens.filter (·.kind == .number)).map (Decimal.read? ·.lexeme) := by
  induction tokens with
  | nil => rfl
  | cons token rest ih =>
      simp only [List.forall_mem_cons] at h
      have hrest := ih h.2
      unfold values at hrest ⊢
      by_cases hk : token.kind = .number
      · obtain ⟨value, hvalue⟩ := Option.isSome_iff_exists.mp (h.1 hk)
        simp [hk, hvalue, hrest]
      · simp [hk, hrest]

end Token

-- At the end no bracket may wait.
theorem Stacks.spans_eq_nil_of_finish {spans : List (Option Span)} {waiting : List Waiting}
    {calls : List Frame} {operands : List Expr} {expr : Expr} (hagree : Agrees spans waiting calls)
    (h : finish waiting operands = .ok expr) : spans = [] := by
  induction hagree generalizing operands with
  | nil => rfl
  | bracket | call => cases h
  | operator _ _ ih =>
      rw [finish] at h
      split at h
      · cases h
      · exact ih h

theorem Token.count_map_mk (kind other : TokenKind) (lexeme : String) (lexemes : List String) :
    (lexemes.map (mk other)).count ⟨kind, lexeme⟩ =
      if kind = other then lexemes.count lexeme else 0 := by
  induction lexemes with
  | nil => simp
  | cons first rest ih =>
      rw [List.map_cons, List.count_cons, List.count_cons, ih]
      by_cases hk : kind = other
      · simp [hk]
      · simp [hk, Ne.symm hk]

theorem Token.countP_comma {tokens : List Token} (h : ∀ token ∈ tokens, token.Plain) :
    tokens.countP (·.kind == .comma) = tokens.count separator := by
  apply List.countP_congr
  rintro ⟨kind, lexeme⟩ hmem
  have hcomma := (h _ hmem).comma
  simp only [beq_iff_eq] at hcomma ⊢
  exact ⟨fun hk => by rw [hk, hcomma hk]; rfl, fun heq => congrArg Token.kind heq⟩

namespace Expr

theorem count_marks (token : Token) (expr : Expr) :
    (marks [expr]).count token =
      (if token.kind = .operator then expr.symbols.count token.lexeme else 0) +
      (if token.kind = .identifier then expr.callNames.count token.lexeme else 0) +
      if token = separator then (expr.callNames.map Function.commasIn).sum else 0 := by
  obtain ⟨kind, lexeme⟩ := token
  simp only [marks, allSymbols, allCallNames, List.append_nil, Multiset.count_add,
    Multiset.coe_count, Token.count_map_mk, Multiset.count_replicate, eq_comm (a := separator)]

theorem leaves_of_ofTokens {tokens : List Token} {expr : Expr} (h : ofTokens tokens = .ok expr) :
    expr.leaves.map some =
      ((Token.withZeros tokens).filter (·.kind == .number)).map (Decimal.read? ·.lexeme) := by
  obtain ⟨last, hreads, -, hfinish⟩ := ofTokens_eq_ok_iff.mp h
  have hleaves : expr.leaves = Token.values (Token.withZeros tokens) :=
    (Stacks.finish_leaves hfinish).trans hreads.leaves
  rw [hleaves]
  exact Token.map_some_values hreads.readable_withZeros

-- What an expression keeps of the tokens that it comes of.
structure Keeps (tokens : List Token) (expr : Expr) : Prop where
  brackets : Token.enclosed 0 tokens
  numbers : expr.leaves.map some =
    ((Token.withZeros tokens).filter (·.kind == .number)).map (Decimal.read? ·.lexeme)
  operators : ∀ symbol, expr.symbols.count symbol = tokens.count ⟨.operator, symbol⟩
  calls : ∀ name, expr.callNames.count name = tokens.count ⟨.identifier, name⟩
  commas : tokens.countP (·.kind == .comma) = (expr.callNames.map Function.commasIn).sum
  sound : expr.Sound

theorem marks_of_ofTokens {tokens : List Token} {expr : Expr}
    (hplain : ∀ token ∈ tokens, token.Plain) (h : ofTokens tokens = .ok expr) :
    marks [expr] = Token.marks tokens := by
  obtain ⟨last, hreads, hfinal, hfinish⟩ := ofTokens_eq_ok_iff.mp h
  have hcalled := ((Token.CallRule.final_eq_ok_iff _ _).mp hfinal).1
  have hsound := hreads.sound hplain Stacks.sound_empty
  have hmarks := hreads.marks hplain Stacks.sound_empty
  have hspans := Stacks.spans_eq_nil_of_finish hsound.agrees hfinish
  have hagree := hsound.agrees
  rw [hspans] at hagree
  have hlast := Stacks.applyWhile_marks (Stacks.finish_eq_ok_iff.mp hfinish)
  rw [Reader.marks_of_calledBy hcalled, Stacks.marks, ← hlast, hagree.eq_nil] at hmarks
  simpa [Stacks.waitingMarks, Stacks.openCommas, Reader.marks, Reader.start, Stacks.marks,
    Stacks.empty, marks, allSymbols, allCallNames] using hmarks

-- Grammatical or not, tokens that are accepted are all there in the expression,
-- each of them once, and the numbers in their order.
theorem keeps_of_ofTokens {tokens : List Token} {expr : Expr}
    (hplain : ∀ token ∈ tokens, token.Plain) (h : ofTokens tokens = .ok expr) :
    Keeps tokens expr := by
  obtain ⟨last, hreads, hfinal, hfinish⟩ := ofTokens_eq_ok_iff.mp h
  have hsound := hreads.sound hplain Stacks.sound_empty
  have hyields := Stacks.finish_yields hsound.agrees hsound.operands
  have hmarks := marks_of_ofTokens hplain h
  have hcount (token : Token) (hmark : token.isMark) :
      tokens.count token = (marks [expr]).count token := by
    rw [hmarks, Token.count_marks hmark]
  refine ⟨?_, ?_, fun symbol => ?_, fun name => ?_, ?_, ?_⟩
  · exact hreads.enclosed hplain Stacks.sound_empty
      (Stacks.spans_eq_nil_of_finish hsound.agrees hfinish)
  · exact leaves_of_ofTokens h
  · rw [hcount _ rfl, count_marks]
    simp [separator]
  · rw [hcount _ rfl, count_marks]
    simp [separator]
  · rw [Token.countP_comma hplain, hcount _ rfl, count_marks]
    simp [separator]
  · rwa [hfinish] at hyields

-- The minus takes the two operands that stand side by side behind it, so that
-- its zero is left for the plus at the end.
theorem keeps_of_ofTokens_scrambled :
    let tokens : List Token := [⟨.operator, "-"⟩, ⟨.identifier, "power"⟩, opening, ⟨.number, "2"⟩,
      separator, ⟨.number, "3"⟩, closing, opening, ⟨.number, "4"⟩, closing, ⟨.operator, "+"⟩]
    let expr : Expr := .binary "+" (.number Binary64.zero) (.binary "-"
      (.call "power" [.number (Binary64.ofInt 2), .number (Binary64.ofInt 3)])
      (.number (Binary64.ofInt 4)))
    (∀ token ∈ tokens, token.Plain) ∧ ofTokens tokens = .ok expr ∧ Keeps tokens expr := by
  intro tokens expr
  have h2 : Decimal.read? "2" = some (Binary64.ofInt 2) := by decide +kernel
  have h3 : Decimal.read? "3" = some (Binary64.ofInt 3) := by decide +kernel
  have h4 : Decimal.read? "4" = some (Binary64.ofInt 4) := by decide +kernel
  have hplain : ∀ token ∈ tokens, token.Plain := by decide
  have haccept : ofTokens tokens = .ok expr := by
    simp only [tokens, opening, closing, separator, ofTokens, Token.CallRule.check,
      Token.CallRule.checkFrom, Stacks.readFrom, Stacks.step, Stacks.number, h2, h3, h4]
    rfl
  exact ⟨hplain, haccept, keeps_of_ofTokens hplain haccept⟩

end Expr

end Reckoner
