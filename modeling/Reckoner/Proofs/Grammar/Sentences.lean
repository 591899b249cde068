import Reckoner.Proofs.Grammar.Completeness
import Reckoner.Proofs.Inventory

namespace Reckoner.Expr.Grammar

theorem plain_operator (symbol : String) : Token.Plain ⟨.operator, symbol⟩ :=
  Token.plain_of_kind (.inr (.inl rfl))

theorem plain_opening : opening.Plain := by decide

theorem plain_closing : closing.Plain := by decide

theorem plain_separator : separator.Plain := by decide

mutual

theorem IsSum.plain {tokens : List Token} {expr : Expr} (h : IsSum tokens expr) :
    ∀ token ∈ tokens, token.Plain :=
  match h with
  | .product hproduct => hproduct.plain
  | .chain hleft _ hright =>
      List.forall_mem_append.mpr
        ⟨hleft.plain, List.forall_mem_cons.mpr ⟨plain_operator _, hright.plain⟩⟩

theorem IsProduct.plain {tokens : List Token} {expr : Expr} (h : IsProduct tokens expr) :
    ∀ token ∈ tokens, token.Plain :=
  match h with
  | .atom hatom => hatom.plain
  | .chain hleft _ hright =>
      List.forall_mem_append.mpr
        ⟨hleft.plain, List.forall_mem_cons.mpr ⟨plain_operator _, hright.plain⟩⟩

theorem IsAtom.plain {tokens : List Token} {expr : Expr} (h : IsAtom tokens expr) :
    ∀ token ∈ tokens, token.Plain :=
  match h with
  | .number _ => List.forall_mem_singleton.mpr (Token.plain_of_kind (.inl rfl))
  | .group hsum =>
      List.forall_mem_append.mpr ⟨List.forall_mem_cons.mpr ⟨plain_opening, hsum.plain⟩,
        List.forall_mem_singleton.mpr plain_closing⟩
  | .call harguments _ =>
      List.forall_mem_append.mpr
        ⟨List.forall_mem_cons.mpr ⟨Token.plain_of_kind (.inr (.inr rfl)),
          List.forall_mem_cons.mpr ⟨plain_opening, harguments.plain⟩⟩,
          List.forall_mem_singleton.mpr plain_closing⟩

theorem AreArguments.plain {tokens : List Token} {exprs : List Expr}
    (h : AreArguments tokens exprs) : ∀ token ∈ tokens, token.Plain :=
  match h with
  | .last hsum => hsum.plain
  | .more hsum hmore =>
      List.forall_mem_append.mpr
        ⟨hsum.plain, List.forall_mem_cons.mpr ⟨plain_separator, hmore.plain⟩⟩

end

variable {tokens : List Token} {expr : Expr}

theorem IsSentence.plain (h : IsSentence tokens expr) : ∀ token ∈ tokens, token.Plain :=
  fun token hmem => IsSum.plain h token (Token.mem_withZerosFrom_of_mem hmem none)

-- What the two passes have come to when they are through with a sentence.
structure Complete (tokens : List Token) (expr : Expr) (last : Reader) : Prop where
  reads : Reader.Reads Reader.start tokens last
  plain : ∀ token ∈ tokens, token.Plain
  called : Token.CallRule.calledBy last.previous = none
  spans : last.spans = []
  calls : last.state.calls = []
  applied : Stacks.applyAll last.state = .ok ([], [expr])
  enclosed : Token.enclosed 0 tokens

theorem IsSentence.exists_complete (h : IsSentence tokens expr) :
    ∃ last, Complete tokens expr last := by
  have haccept : ofTokens tokens = .ok expr := by
    rw [← ofTokens_withZeros]
    exact ofTokens_of_isSum h
  obtain ⟨last, hreads, hfinal, hfinish⟩ := ofTokens_eq_ok_iff.mp haccept
  have hsound := hreads.sound h.plain Stacks.sound_empty
  have hspans := Stacks.spans_eq_nil_of_finish hsound.agrees hfinish
  have hcalls : last.state.calls = [] := by
    have hagrees := hsound.agrees
    rw [hspans] at hagrees
    exact hagrees.eq_nil
  exact ⟨last, {
    reads := hreads
    plain := h.plain
    called := ((Token.CallRule.final_eq_ok_iff _ _).mp hfinal).1
    spans := hspans
    calls := hcalls
    applied := by
      rw [Stacks.applyAll_eq, hcalls]
      exact Stacks.finish_eq_ok_iff.mp hfinish
    enclosed := hreads.enclosed h.plain Stacks.sound_empty hspans }⟩

end Reckoner.Expr.Grammar
