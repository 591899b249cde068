import Reckoner.Proofs.Grammar.Completeness
import Reckoner.Proofs.Grammar.Fits
import Reckoner.Proofs.Stacks.Agreement

namespace Reckoner

open Token (clash clashFree endsOperand beginsOperand isOperator)
open Token.CallRule (Span calledBy scanOne isOpening)
open Expr.Grammar
open Stacks

-- Arguments that are complete, each with the comma behind it.
inductive Finished : List Token → List Expr → Prop
  | nil : Finished [] []
  | snoc {front more : List Token} {exprs : List Expr} {expr : Expr} :
      Finished front exprs → IsSum more expr →
      Finished (front ++ more ++ [separator]) (exprs ++ [expr])

theorem Finished.areArguments {front rest : List Token} {exprs tail : List Expr}
    (h : Finished front exprs) (hrest : AreArguments rest tail) :
    AreArguments (front ++ rest) (exprs ++ tail) := by
  induction h generalizing rest tail with
  | nil => exact hrest
  | snoc _ hsum ih => simpa using ih (.more hsum hrest)

-- Tokens that end where an operand is due, and the stacks that they leave. Each
-- operator waits behind what it would take for its left operand.
inductive Pending : List Token → List Expr → List Waiting → List Frame → Prop
  | start : Pending [] [] [] []
  | bracket {tokens : List Token} {operands : List Expr} {waiting : List Waiting}
      {calls : List Frame} : Pending tokens operands waiting calls →
      Pending (tokens ++ [opening]) operands (.bracket :: waiting) calls
  | call {tokens done : List Token} {operands exprs : List Expr} {waiting : List Waiting}
      {calls : List Frame} {function : Function} : Pending tokens operands waiting calls →
      Finished done exprs →
      Pending (tokens ++ ⟨.identifier, function.name⟩ :: opening :: done)
        (exprs.reverse ++ operands) (.call function.name :: waiting)
        (⟨function.name, operands.length, exprs.length⟩ :: calls)
  | sum {tokens more : List Token} {operands : List Expr} {expr : Expr} {waiting : List Waiting}
      {calls : List Frame} {symbol : String} : Pending tokens operands waiting calls →
      Settled (bindsAtLeast 1) waiting → IsSum more expr → symbol ∈ ["+", "-"] →
      Pending (tokens ++ more ++ [⟨.operator, symbol⟩]) (expr :: operands)
        (.operator symbol :: waiting) calls
  | product {tokens more : List Token} {operands : List Expr} {expr : Expr}
      {waiting : List Waiting} {calls : List Frame} {symbol : String} :
      Pending tokens operands waiting calls →
      Settled (bindsAtLeast 2) waiting → IsProduct more expr → symbol ∈ ["*", "/", "%"] →
      Pending (tokens ++ more ++ [⟨.operator, symbol⟩]) (expr :: operands)
        (.operator symbol :: waiting) calls

section

variable {tokens more : List Token} {operands result : List Expr} {expr : Expr}
  {waiting rest : List Waiting} {calls : List Frame} {floor : Nat}
  {due : String → Except EvalError Bool}

-- An atom completes a product once the operator that waits for it is applied.
theorem Pending.product_of_atom (h : Pending tokens operands waiting calls)
    (hatom : IsAtom more expr) (hdue : ∀ symbol ∈ ["*", "/", "%"], due symbol = .ok true)
    (happly : applyWhile due floor waiting (expr :: operands) = .ok (rest, result)) :
    ∃ front back left value top, tokens ++ more = front ++ back ∧ Pending front left top calls ∧
      IsProduct back value ∧ Settled (bindsAtLeast 2) top ∧
      applyWhile due floor top (value :: left) = .ok (rest, result) := by
  cases h with
  | @product tokens front operands left waiting calls symbol hpending hsettled hproduct hs =>
      simp only [applyWhile, hdue symbol hs] at happly
      cases hjoin : join floor symbol (expr :: left :: operands) with
      | error failure => simp [hjoin] at happly
      | ok next =>
          rw [hjoin] at happly
          obtain ⟨_, _, _, ⟨rfl, rfl, rfl⟩, -, rfl⟩ := join_eq_ok_iff.mp hjoin
          exact ⟨tokens, front ++ ⟨.operator, symbol⟩ :: more, operands, _, waiting, by simp,
            hpending, .chain hproduct hs hatom, hsettled, happly⟩
  | start => exact ⟨_, more, _, expr, _, rfl, .start, .atom hatom, trivial, happly⟩
  | bracket hpending =>
      exact ⟨_, more, _, expr, _, rfl, .bracket hpending, .atom hatom, trivial, happly⟩
  | call hpending hdone =>
      exact ⟨_, more, _, expr, _, rfl, .call hpending hdone, .atom hatom, trivial, happly⟩
  | sum hpending hsettled hsum hs =>
      exact ⟨_, more, _, expr, _, rfl, .sum hpending hsettled hsum hs, .atom hatom,
        bindsAtLeast_eq (precedence_of_mem_sums hs) 2, happly⟩

-- Every operator that waits binds at least as tightly as the loosest one.
theorem Pending.settled (h : Pending tokens operands waiting calls)
    (hsettled : Settled (bindsAtLeast 1) waiting) : Settled always waiting := by
  cases h with
  | start | bracket | call => trivial
  | sum _ _ _ hs =>
      simp [Settled, bindsAtLeast_eq (precedence_of_mem_sums hs)] at hsettled
  | product _ _ _ hs =>
      simp [Settled, bindsAtLeast_eq (precedence_of_mem_products hs)] at hsettled

theorem Pending.sum_of_product (h : Pending tokens operands waiting calls)
    (hproduct : IsProduct more expr) (hsettled : Settled (bindsAtLeast 2) waiting)
    (hdue : ∀ symbol ∈ ["+", "-"], due symbol = .ok true)
    (happly : applyWhile due floor waiting (expr :: operands) = .ok (rest, result)) :
    ∃ front back left value top, tokens ++ more = front ++ back ∧ Pending front left top calls ∧
      IsSum back value ∧ Settled always top ∧
      applyWhile due floor top (value :: left) = .ok (rest, result) := by
  cases h with
  | @sum tokens front operands left waiting calls symbol hpending hinner hsum hs =>
      simp only [applyWhile, hdue symbol hs] at happly
      cases hjoin : join floor symbol (expr :: left :: operands) with
      | error failure => simp [hjoin] at happly
      | ok next =>
          rw [hjoin] at happly
          obtain ⟨_, _, _, ⟨rfl, rfl, rfl⟩, -, rfl⟩ := join_eq_ok_iff.mp hjoin
          exact ⟨tokens, front ++ ⟨.operator, symbol⟩ :: more, operands, _, waiting, by simp,
            hpending, .chain hsum hs hproduct, hpending.settled hinner, happly⟩
  | start => exact ⟨_, more, _, expr, _, rfl, .start, .product hproduct, trivial, happly⟩
  | bracket hpending =>
      exact ⟨_, more, _, expr, _, rfl, .bracket hpending, .product hproduct, trivial, happly⟩
  | call hpending hdone =>
      exact ⟨_, more, _, expr, _, rfl, .call hpending hdone, .product hproduct, trivial, happly⟩
  | product _ _ _ hs =>
      simp [Settled, bindsAtLeast_eq (precedence_of_mem_products hs)] at hsettled

-- What a comma, a closing bracket and the end find: a whole sum on top.
theorem Pending.sum_of_atom (h : Pending tokens operands waiting calls) (hatom : IsAtom more expr)
    (hproducts : ∀ symbol ∈ ["*", "/", "%"], due symbol = .ok true)
    (hsums : ∀ symbol ∈ ["+", "-"], due symbol = .ok true)
    (happly : applyWhile due floor waiting (expr :: operands) = .ok (rest, result)) :
    ∃ front back left value, tokens ++ more = front ++ back ∧ Pending front left rest calls ∧
      IsSum back value ∧ Settled always rest ∧ result = value :: left := by
  obtain ⟨front, back, left, value, top, htokens, hpending, hproduct, hsettled, happly⟩ :=
    h.product_of_atom hatom hproducts happly
  obtain ⟨front', back', left', value', top', htokens', hpending', hsum, hsettled', happly⟩ :=
    hpending.sum_of_product hproduct hsettled hsums happly
  have hdone : applyWhile due floor top' (value' :: left') = .ok (top', value' :: left') := by
    cases top' with
    | nil => rfl
    | cons entry top' =>
        cases entry with
        | operator symbol => cases hsettled'
        | bracket | call => rfl
  rw [hdone] at happly
  cases happly
  exact ⟨front', back', left', value', htokens.trans htokens', hpending', hsum, hsettled', rfl⟩

end

-- Whether the entry on top can have come from the token that was read last.
def ComesFrom (previous : Option Token) : List Waiting → Prop
  | .operator _ :: _ => isOperator previous
  | .bracket :: _ => isOpening previous
  | _ => True

-- How the tokens that have been read so far go on to be part of a sentence.
inductive Parsed : List Token → Reader → Prop
  | due {tokens : List Token} {reader : Reader} :
      Pending tokens reader.state.operands reader.state.waiting reader.state.calls →
      endsOperand reader.previous = false → calledBy reader.previous = none →
      ComesFrom reader.previous reader.state.waiting → Parsed tokens reader
  | named {tokens : List Token} {reader : Reader} {function : Function} :
      Pending tokens reader.state.operands reader.state.waiting reader.state.calls →
      reader.previous = some ⟨.identifier, function.name⟩ →
      Parsed (tokens ++ [⟨.identifier, function.name⟩]) reader
  | complete {tokens more : List Token} {reader : Reader} {operands : List Expr} {expr : Expr} :
      Pending tokens operands reader.state.waiting reader.state.calls → IsAtom more expr →
      reader.state.operands = expr :: operands → endsOperand reader.previous →
      Parsed (tokens ++ more) reader

theorem parsed_start : Parsed [] Reader.start := .due .start rfl rfl trivial

section

variable {tokens more : List Token} {operands : List Expr} {expr : Expr} {previous : Option Token}
  {token : Token} {spans next : List (Option Span)} {state after : Stacks}

-- Where an operand is due, the entry on top is no operator unless one was just read.
theorem applyAll_of_comesFrom (hcomes : ComesFrom previous state.waiting)
    (hop : isOperator previous = false) :
    applyAll state = .ok (state.waiting, state.operands) := by
  apply applyWhile_of_settled
  cases hwaiting : state.waiting with
  | nil => trivial
  | cons top waiting =>
      cases top with
      | operator symbol => simp [ComesFrom, hwaiting, hop] at hcomes
      | bracket | call => trivial

-- No argument is finished where an operand is due.
theorem Pending.length_ne {waiting : List Waiting} {frame : Frame} {calls : List Frame}
    {name : String} (h : Pending tokens operands (.call name :: waiting) (frame :: calls)) :
    operands.length ≠ frame.floor + 1 := by
  cases h with
  | call hpending hdone =>
      simp only [List.length_append, List.length_reverse, Frame.floor]
      omega

theorem parsed_of_due (hpending : Pending tokens state.operands state.waiting state.calls)
    (hends : endsOperand previous = false) (hcalled : calledBy previous = none)
    (hcomes : ComesFrom previous state.waiting) (hplain : token.Plain)
    (hclash : clash previous (some token) = false)
    (hreceive : receive previous token state = .ok after) :
    Parsed (tokens ++ [token]) ⟨some token, spans, after⟩ := by
  obtain ⟨kind, lexeme⟩ := token
  cases kind with
  | number =>
      obtain ⟨value, hread, rfl⟩ := number_cases hreceive
      exact .complete hpending (.number hread) rfl rfl
  | operator =>
      have hends' := Token.endsOperand_of_operator rfl hclash
      simp [hends] at hends'
  | bracketOpen =>
      obtain rfl : lexeme = "(" := hplain.opening rfl
      simp only [receive, hcalled, Except.ok.injEq] at hreceive
      subst hreceive
      exact .due (.bracket hpending) rfl rfl rfl
  | bracketClose =>
      have hall := applyAll_of_comesFrom hcomes (Token.isOperator_of_clash rfl hclash)
      have hopening := Token.isOpening_of_clash rfl hclash
      rcases close_cases hreceive with ⟨waiting, result, happly, -⟩ |
        ⟨name, waiting, frame, calls, result, happly, hcalls, hlen, -⟩
      · simp only [hall, Except.ok.injEq, Prod.mk.injEq] at happly
        rw [happly.1] at hcomes
        simp [ComesFrom, hopening] at hcomes
      · simp only [hall, Except.ok.injEq, Prod.mk.injEq] at happly
        rw [happly.1, happly.2, hcalls] at hpending
        exact absurd hlen hpending.length_ne
  | comma =>
      have hall := applyAll_of_comesFrom hcomes (Token.isOperator_of_clash rfl hclash)
      obtain ⟨name, waiting, frame, calls, result, happly, hcalls, hlen, -⟩ := comma_cases hreceive
      simp only [hall, Except.ok.injEq, Prod.mk.injEq] at happly
      rw [happly.1, happly.2, hcalls] at hpending
      exact absurd hlen hpending.length_ne
  | identifier =>
      obtain ⟨opened, hopen, rfl⟩ := map_eq_ok_iff.mp hreceive
      obtain ⟨function, rfl, -⟩ := openCall_cases hopen
      exact .named hpending rfl

-- Between a function's name and its bracket nothing else can stand.
theorem parsed_of_named {function : Function}
    (hpending : Pending tokens state.operands state.waiting state.calls)
    (hprevious : previous = some ⟨.identifier, function.name⟩) (hplain : token.Plain)
    (hscan : scanOne previous token spans = .ok next)
    (hreceive : receive previous token state = .ok after) :
    Parsed (tokens ++ [⟨.identifier, function.name⟩] ++ [token]) ⟨some token, next, after⟩ := by
  have hcalled : calledBy previous = some function := by simp [hprevious, calledBy]
  obtain ⟨hk, -⟩ := Token.CallRule.eq_of_scanOne_of_calledBy hcalled hscan
  have hopening : token = opening := by
    obtain ⟨kind, lexeme⟩ := token
    subst hk
    exact congrArg (Token.mk .bracketOpen) (hplain.opening rfl)
  subst hopening
  simp only [receive, opening, hcalled, openCall_name, Except.ok.injEq] at hreceive
  subst hreceive
  refine .due ?_ rfl rfl trivial
  simpa using @Pending.call _ _ _ _ _ _ function hpending .nil

-- An operator takes for its left operand what binds as tightly as it does.
theorem parsed_of_operator {symbol : String}
    (hpending : Pending tokens operands state.waiting state.calls) (hatom : IsAtom more expr)
    (hoperands : state.operands = expr :: operands) (hends : endsOperand previous)
    (hreceive : operator previous symbol state = .ok after) :
    Parsed (tokens ++ more ++ [⟨.operator, symbol⟩])
      ⟨some ⟨.operator, symbol⟩, spans, after⟩ := by
  obtain ⟨binding, waiting, result, hprec, happly, rfl⟩ := operator_cases hreceive
  have hu := Token.isUnaryPosition_of_endsOperand hends
  simp only [withZero, hu, Bool.and_false, Bool.false_eq_true, ite_false, hoperands] at happly
  have hsettled := settled_of_applyWhile happly
  rcases mem_of_precedence hprec with ⟨rfl, hs⟩ | ⟨rfl, hs⟩
  · have hproducts (other : String) (ho : other ∈ ["*", "/", "%"]) :
        bindsAtLeast 1 other = .ok true := bindsAtLeast_eq (precedence_of_mem_products ho) 1
    have hsums (other : String) (ho : other ∈ ["+", "-"]) :
        bindsAtLeast 1 other = .ok true := bindsAtLeast_eq (precedence_of_mem_sums ho) 1
    obtain ⟨front, back, left, value, htokens, hpending, hsum, -, rfl⟩ :=
      hpending.sum_of_atom hatom hproducts hsums happly
    rw [htokens]
    exact .due (.sum hpending hsettled hsum hs) rfl rfl rfl
  · have hproducts (other : String) (ho : other ∈ ["*", "/", "%"]) :
        bindsAtLeast 2 other = .ok true := bindsAtLeast_eq (precedence_of_mem_products ho) 2
    obtain ⟨front, back, left, value, top, htokens, hpending, hproduct, htop, happly⟩ :=
      hpending.product_of_atom hatom hproducts happly
    rw [applyWhile_of_settled htop] at happly
    cases happly
    rw [htokens]
    exact .due (.product hpending hsettled hproduct hs) rfl rfl rfl

-- What a comma and a closing bracket find on top.
theorem Pending.sum_of_applyAll {waiting : List Waiting} {result : List Expr}
    (hpending : Pending tokens operands state.waiting state.calls) (hatom : IsAtom more expr)
    (hoperands : state.operands = expr :: operands)
    (happly : applyAll state = .ok (waiting, result)) :
    ∃ front back left value, tokens ++ more = front ++ back ∧
      Pending front left waiting state.calls ∧ IsSum back value ∧ result = value :: left := by
  rw [applyAll_eq, hoperands] at happly
  obtain ⟨front, back, left, value, htokens, hpending, hsum, -, hresult⟩ :=
    hpending.sum_of_atom hatom (fun _ _ => rfl) (fun _ _ => rfl) happly
  exact ⟨front, back, left, value, htokens, hpending, hsum, hresult⟩

theorem parsed_of_separator (hpending : Pending tokens operands state.waiting state.calls)
    (hatom : IsAtom more expr) (hoperands : state.operands = expr :: operands)
    (hreceive : comma "," state = .ok after) :
    Parsed (tokens ++ more ++ [separator]) ⟨some separator, spans, after⟩ := by
  obtain ⟨name, waiting, frame, calls, result, happly, hcalls, -, rfl⟩ := comma_cases hreceive
  obtain ⟨front, back, left, value, htokens, hpending, hsum, rfl⟩ :=
    hpending.sum_of_applyAll hatom hoperands happly
  rw [hcalls] at hpending
  cases hpending with
  | @call front done operands exprs waiting calls function hpending hdone =>
      rw [htokens]
      refine .due ?_ rfl rfl trivial
      simpa using @Pending.call _ _ _ _ _ _ function hpending (hdone.snoc hsum)

theorem parsed_of_closing (hpending : Pending tokens operands state.waiting state.calls)
    (hatom : IsAtom more expr) (hoperands : state.operands = expr :: operands)
    (hends : endsOperand previous) (hsound : Stacks.Sound spans state)
    (hscan : scanOne previous closing spans = .ok next) (hreceive : close state = .ok after) :
    Parsed (tokens ++ more ++ [closing]) ⟨some closing, next, after⟩ := by
  have hyields := applyAll_yields hsound
  rcases close_cases hreceive with ⟨waiting, result, happly, rfl⟩ |
    ⟨name, waiting, frame, calls, result, happly, hcalls, -, rfl⟩
  · obtain ⟨front, back, left, value, htokens, hpending, hsum, rfl⟩ :=
      hpending.sum_of_applyAll hatom hoperands happly
    cases hpending with
    | @bracket front left waiting calls hpending =>
        rw [htokens]
        simpa using @Parsed.complete _ _ ⟨some closing, next, value :: left, waiting, _⟩ _ _
          hpending (.group hsum) rfl rfl
  · obtain ⟨front, back, left, value, htokens, hpending, hsum, rfl⟩ :=
      hpending.sum_of_applyAll hatom hoperands happly
    rw [happly, hcalls] at hyields
    obtain ⟨hagree, -, -⟩ := hyields
    rw [hcalls] at hpending
    cases hpending with
    | @call front done operands exprs waiting calls function hpending hdone =>
        generalize hname : function.name = name at hagree
        cases hagree with
        | @call outer _ _ other base finished hagree hbase =>
            obtain rfl := Function.name_injective hname
            have harity : (exprs ++ [value]).length = function.arity := by
              simp only [scanOne, Token.calledBy_of_endsOperand hends, closing,
                map_eq_ok_iff] at hscan
              obtain ⟨_, hclose, -⟩ := hscan
              simpa using Token.CallRule.count_of_close hclose
            have hatom := IsAtom.call (hdone.areArguments (.last hsum)) harity
            have hfold := fold_concat function.name (exprs.length + 1) exprs operands value
            rw [htokens]
            simpa using @Parsed.complete _ _ ⟨some closing, next, fold _ _, waiting, calls⟩ _ _
              hpending hatom hfold rfl

-- Behind an operand neither another one nor a bracket can open.
theorem parsed_of_complete (hpending : Pending tokens operands state.waiting state.calls)
    (hatom : IsAtom more expr) (hoperands : state.operands = expr :: operands)
    (hends : endsOperand previous) (hplain : token.Plain)
    (hclash : clash previous (some token) = false) (hsound : Stacks.Sound spans state)
    (hscan : scanOne previous token spans = .ok next)
    (hreceive : receive previous token state = .ok after) :
    Parsed (tokens ++ more ++ [token]) ⟨some token, next, after⟩ := by
  have hbegins := Token.beginsOperand_of_endsOperand hends hclash
  obtain ⟨kind, lexeme⟩ := token
  cases kind with
  | number | identifier | bracketOpen => cases hbegins
  | operator => exact parsed_of_operator hpending hatom hoperands hends hreceive
  | comma =>
      obtain rfl : lexeme = "," := hplain.comma rfl
      exact parsed_of_separator hpending hatom hoperands hreceive
  | bracketClose =>
      obtain rfl : lexeme = ")" := hplain.closing rfl
      exact parsed_of_closing hpending hatom hoperands hends hsound hscan hreceive

end

theorem Parsed.step {tokens : List Token} {token : Token} {reader next : Reader}
    (h : Parsed tokens reader) (hsound : Stacks.Sound reader.spans reader.state)
    (hplain : token.Plain) (hclash : clash reader.previous (some token) = false)
    (hstep : Reader.Steps reader token next) : Parsed (tokens ++ [token]) next := by
  obtain ⟨previous, spans, after⟩ := next
  obtain ⟨rfl, hscan, hreceive⟩ := hstep
  cases h with
  | due hpending hends hcalled hcomes =>
      exact parsed_of_due hpending hends hcalled hcomes hplain hclash hreceive
  | named hpending hprevious =>
      exact parsed_of_named hpending hprevious hplain hscan hreceive
  | complete hpending hatom hoperands hends =>
      exact parsed_of_complete hpending hatom hoperands hends hplain hclash hsound hscan hreceive

theorem Parsed.run {tokens rest : List Token} {reader last : Reader} (h : Parsed tokens reader)
    (hsound : Stacks.Sound reader.spans reader.state) (hplain : ∀ token ∈ rest, token.Plain)
    (hclash : Token.clashFreeUpTo reader.previous rest) (hreads : Reader.Reads reader rest last) :
    Parsed (tokens ++ rest) last := by
  induction hreads generalizing tokens with
  | nil => simpa using h
  | @cons reader next last token rest hstep hrest ih =>
      simp only [List.forall_mem_cons] at hplain
      simp only [Token.clashFreeUpTo, Bool.and_eq_true, Bool.not_eq_true'] at hclash
      have hnext := h.step hsound hplain.1 hclash.1 hstep
      have hlast := ih hnext (hstep.sound hplain.1 hsound) hplain.2
        (by rw [hstep.previous]; exact hclash.2)
      simpa using hlast

theorem Pending.eq_nil {tokens : List Token} {operands : List Expr} {calls : List Frame}
    (h : Pending tokens operands [] calls) : tokens = [] := by
  cases h
  rfl

-- Nothing is open at the end, so that one sum is all that was read.
theorem Parsed.isSum {tokens : List Token} {reader : Reader} {expr : Expr}
    (h : Parsed tokens reader) (hclash : clash reader.previous none = false)
    (hcalled : calledBy reader.previous = none)
    (hfinish : finish reader.state.waiting reader.state.operands = .ok expr) :
    IsSum tokens expr := by
  obtain ⟨previous, spans, operands, waiting, calls⟩ := reader
  cases h with
  | due hpending _ _ hcomes =>
      have hop := Token.isOperator_of_clash (show beginsOperand none = false from rfl) hclash
      cases hpending with
      | start | bracket | call => cases hfinish
      | sum | product => simp [ComesFrom, hop] at hcomes
  | named _ hprevious =>
      rw [hprevious] at hcalled
      simp [calledBy] at hcalled
  | complete hpending hatom hoperands _ =>
      have happly := finish_eq_ok_iff.mp hfinish
      rw [hoperands] at happly
      obtain ⟨front, back, left, value, htokens, hpending, hsum, -, hresult⟩ :=
        hpending.sum_of_atom hatom (fun _ _ => rfl) (fun _ _ => rfl) happly
      cases hresult
      rwa [htokens, hpending.eq_nil]

namespace Expr

-- Apart from what neighbours can have wrong, only sentences are accepted.
theorem isSum_of_ofTokens {tokens : List Token} {expr : Expr}
    (hplain : ∀ token ∈ tokens, token.Plain) (hclash : clashFree none tokens)
    (h : ofTokens tokens = .ok expr) : IsSum tokens expr := by
  obtain ⟨last, hreads, hfinal, hfinish⟩ := ofTokens_eq_ok_iff.mp h
  simp only [Token.clashFree_eq, Bool.and_eq_true, Bool.not_eq_true'] at hclash
  have hparsed := parsed_start.run Stacks.sound_empty hplain hclash.1 hreads
  have hprevious := (Reader.reads_iff.mp hreads).1
  apply hparsed.isSum
  · rw [hprevious]
    exact hclash.2
  · exact ((Token.CallRule.final_eq_ok_iff _ _).mp hfinal).1
  · exact hfinish

-- The stacks count operands and do not see where they stand. What is accepted
-- from a text is a sentence just when no two neighbours clash.
theorem exists_isSentence_iff_clashFree {text : String} {tokens : List Token} {expr : Expr}
    (hlex : Token.ofText text = .ok tokens) (haccept : ofTokens tokens = .ok expr) :
    (∃ derived, IsSentence tokens derived) ↔ clashFree none (Token.withZeros tokens) := by
  constructor
  · rintro ⟨derived, hderived⟩
    exact hderived.clashFree
  · intro hclash
    have hplain (token : Token) (h : token ∈ Token.withZeros tokens) : token.Plain :=
      Token.plain_of_mem_withZerosFrom (fun token h => (Token.lexed_of_ofText hlex token h).toPlain)
        token h
    exact ⟨expr, isSum_of_ofTokens hplain hclash ((ofTokens_withZeros tokens).trans haccept)⟩

theorem exists_isSentence_product :
    let tokens : List Token := [⟨.number, "2"⟩, ⟨.operator, "*"⟩, opening, ⟨.operator, "-"⟩,
      ⟨.number, "3"⟩, closing]
    Token.ofText "2*(-3)" = .ok tokens ∧ ∃ derived, IsSentence tokens derived := by
  intro tokens
  have hlex : Token.ofText "2*(-3)" = .ok tokens := by cbv
  have h2 : Decimal.read? "2" = some (Binary64.ofInt 2) := by decide +kernel
  have h3 : Decimal.read? "3" = some (Binary64.ofInt 3) := by decide +kernel
  have haccept : ofTokens tokens = .ok (.binary "*" (.number (Binary64.ofInt 2))
      (.binary "-" (.number Binary64.zero) (.number (Binary64.ofInt 3)))) := by
    simp only [tokens, opening, closing, ofTokens, Token.CallRule.check, Token.CallRule.checkFrom,
      Stacks.readFrom, Stacks.step, Stacks.number, h2, h3]
    rfl
  exact ⟨hlex, (exists_isSentence_iff_clashFree hlex haccept).mpr (by decide)⟩

-- A plain bracket sets no floor, so that the plus inside takes the two from outside.
theorem not_exists_isSentence_plus :
    let tokens : List Token := [⟨.number, "2"⟩, opening, ⟨.operator, "+"⟩, ⟨.number, "3"⟩, closing]
    Token.ofText "2(+3)" = .ok tokens ∧
      ofTokens tokens = .ok (.binary "+" (.number (Binary64.ofInt 2))
        (.number (Binary64.ofInt 3))) ∧
      ¬∃ derived, IsSentence tokens derived := by
  intro tokens
  have h2 : Decimal.read? "2" = some (Binary64.ofInt 2) := by decide +kernel
  have h3 : Decimal.read? "3" = some (Binary64.ofInt 3) := by decide +kernel
  refine ⟨by cbv, ?_, ?_⟩
  · simp only [tokens, opening, closing, ofTokens, Token.CallRule.check, Token.CallRule.checkFrom,
      Stacks.readFrom, Stacks.step, Stacks.number, h2, h3]
    rfl
  · rintro ⟨derived, hderived⟩
    have hfree := hderived.clashFree
    revert hfree
    decide

end Expr

end Reckoner
