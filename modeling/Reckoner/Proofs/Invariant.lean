import Reckoner.Proofs.Passes
import Reckoner.Proofs.Stacks.Markers
import Reckoner.Proofs.Stacks.Moves

namespace Reckoner

namespace Stacks

open Token (Unmated)
open Token.CallRule (Span namedAt)

-- What holds of the stacks whenever the reading comes to a token.
structure Consistent (before : List Token) (state : Stacks) : Prop where
  marked : ∃ marks, Marks before state.waiting state.calls marks
  known : ∀ symbol, .operator symbol ∈ state.waiting → (Operator.ofSymbol? symbol).isSome
  rising : ∀ symbols : List String, symbols.map .operator <:+: state.waiting →
    symbols.Pairwise Tighter ∧ symbols.length ≤ 2
  nested : state.calls.Pairwise fun inner outer => outer.floor ≤ inner.base
  floor_le : floor state.calls ≤ state.operands.length
  untouched : ∀ place function earlier, Unmated before (place + 1) →
    namedAt before place = some function → Reaches (before.take place) earlier →
    ∀ front later, front <+: before → place ≤ front.length → Reaches front later →
      earlier.operands <:+ later.operands

instance : Trans Tighter Tighter Tighter where
  trans := by
    rintro upper middle lower ⟨tight, between, hupper, hmiddle, hlt⟩ ⟨same, loose, hsame, hlower, hless⟩
    obtain rfl : between = same := Except.ok.inj (hmiddle.symm.trans hsame)
    exact ⟨tight, loose, hupper, hlower, Nat.lt_trans hless hlt⟩

-- There are two precedences.
theorem length_le_two {symbols : List String} (h : symbols.Pairwise Tighter) :
    symbols.length ≤ 2 := by
  match symbols with
  | [] | [_] | [_, _] => simp
  | first :: second :: third :: rest =>
      have hupper : Tighter first second := List.rel_of_pairwise_cons h List.mem_cons_self
      have hlower : Tighter second third := List.rel_of_pairwise_cons h.of_cons List.mem_cons_self
      obtain ⟨high, middle, hhigh, hmiddle, hlt⟩ := hupper
      obtain ⟨same, low, hsame, hlow, hless⟩ := hlower
      obtain rfl : middle = same := Except.ok.inj (hmiddle.symm.trans hsame)
      have hmost := mem_of_precedence hhigh
      have hleast := mem_of_precedence hlow
      omega

theorem tighter_of_rises {waiting : List Waiting} {symbols : List String}
    (h : waiting.IsChain Rises) (hrun : symbols.map .operator <:+: waiting) :
    symbols.Pairwise Tighter := by
  have hchain : (symbols.map .operator).IsChain Rises := List.IsChain.infix h hrun
  exact List.IsChain.pairwise ((List.isChain_map Waiting.operator).mp hchain)

section

variable {spans : List (Option Span)} {waiting : List Waiting} {calls : List Frame} {frame : Frame}

-- No frame lies higher than the innermost one.
theorem le_of_nested (h : calls.Pairwise fun inner outer => outer.floor ≤ inner.base)
    (hframe : frame ∈ calls) : frame.base ≤ base calls ∧ frame.floor ≤ floor calls := by
  cases calls with
  | nil => cases hframe
  | cons inner calls =>
      rcases List.mem_cons.mp hframe with rfl | hframe
      · exact ⟨Nat.le_refl _, Nat.le_refl _⟩
      · have hle := List.rel_of_pairwise_cons h hframe
        simp only [base, floor, Frame.floor] at hle ⊢
        omega

theorem Agrees.nested (h : Agrees spans waiting calls) :
    calls.Pairwise fun inner outer => outer.floor ≤ inner.base := by
  induction h with
  | nil => exact .nil
  | operator _ _ ih => exact ih
  | bracket _ ih => exact ih
  | call _ hbase ih =>
      exact List.pairwise_cons.mpr
        ⟨fun outer houter => Nat.le_trans (le_of_nested ih houter).2 hbase, ih⟩

theorem Agrees.known (h : Agrees spans waiting calls) {symbol : String}
    (hsymbol : .operator symbol ∈ waiting) : (Operator.ofSymbol? symbol).isSome := by
  induction h with
  | nil => cases hsymbol
  | operator hknown _ ih =>
      rcases List.mem_cons.mp hsymbol with heq | hsymbol
      · cases heq
        exact hknown
      · exact ih hsymbol
  | bracket _ ih | call _ _ ih =>
      rcases List.mem_cons.mp hsymbol with heq | hsymbol
      · cases heq
      · exact ih hsymbol

end

-- The bracket behind a name is still open, and the reading had come to these stacks
-- before the name.
structure OpenCall (tokens : List Token) (place : Nat) (earlier : Stacks) : Prop where
  unmated : Unmated tokens (place + 1)
  named : ∃ function, namedAt tokens place = some function
  reached : Reaches (tokens.take place) earlier

theorem OpenCall.of_append {front more : List Token} {place : Nat} {earlier : Stacks}
    (h : OpenCall (front ++ more) place earlier) (hopen : place + 1 < front.length) :
    OpenCall front place earlier where
  unmated := h.unmated.of_append hopen
  named := by
    obtain ⟨function, hnamed⟩ := h.named
    rw [namedAt, List.getElem?_append_left (Nat.lt_of_succ_lt hopen)] at hnamed
    exact ⟨function, hnamed⟩
  reached := by
    rw [← List.take_append_of_le_length (Nat.le_of_lt (Nat.lt_of_succ_lt hopen))]
    exact h.reached

end Stacks

namespace Reader

open Stacks (OpenCall)

section

variable {reader last : Reader} {tokens : List Token}

theorem Reads.rises (h : Reads reader tokens last) (hplain : ∀ token ∈ tokens, token.Plain)
    (hrises : reader.state.waiting.IsChain Stacks.Rises) : last.state.waiting.IsChain Stacks.Rises := by
  induction h with
  | nil => exact hrises
  | cons hstep _ ih =>
      simp only [List.forall_mem_cons] at hplain
      exact ih hplain.2 ((Stacks.moves_of_receive hplain.1 hstep.state).rises hrises)

theorem Steps.operands_eq {next : Reader} {token : Token} (h : Steps reader token next)
    (hkind : token.kind = .identifier ∨ token.kind = .bracketOpen) :
    next.state.operands = reader.state.operands := by
  have hreceive := h.state
  unfold Stacks.receive at hreceive
  rcases hkind with hkind | hkind
  · simp only [hkind] at hreceive
    obtain ⟨_, -, hsame⟩ := map_eq_ok_iff.mp hreceive
    rw [hsame]
  · simp only [hkind] at hreceive
    split at hreceive
    · rw [Stacks.openCall_name, Except.ok.injEq] at hreceive
      rw [← hreceive]
    · rw [← Except.ok.inj hreceive, Stacks.openBracket]

variable {place : Nat} {earlier : Stacks}

-- As long as its bracket is open, a call has its frame.
theorem Reads.exists_frame (h : Reads start tokens reader) (hplain : ∀ token ∈ tokens, token.Plain)
    (hcall : OpenCall tokens place earlier) :
    ∃ frame ∈ reader.state.calls, frame.base = earlier.operands.length := by
  obtain ⟨function, hnamed⟩ := hcall.named
  obtain ⟨marks, hmarks⟩ := (h.placed hplain).exists_marks
  obtain ⟨mark, hmark, hplace⟩ := (hmarks.unmated (place + 1)).mpr hcall.unmated
  cases hmarks.stands mark hmark with
  | bracket hcalled =>
      obtain rfl := hplace
      rw [Token.CallRule.calledAt_succ hnamed] at hcalled
      cases hcalled
  | call _ hreaches =>
      obtain rfl := Nat.succ_inj.mp hplace
      rw [hreaches.unique hcall.reached] at hmark
      rw [hmarks.frames]
      exact ⟨_, List.mem_filterMap.mpr ⟨_, hmark, rfl⟩, rfl⟩

-- Until its bracket has come a call is not open yet, but nothing is touched either.
theorem Steps.untouched {front more : List Token} {token : Token} {next : Reader}
    (hstep : Steps reader token next) (hreads : Reads start front reader)
    (hplain : ∀ other ∈ front ++ token :: more, other.Plain)
    (hcall : OpenCall (front ++ token :: more) place earlier) (hplace : place ≤ front.length)
    (hkept : earlier.operands <:+ reader.state.operands) :
    earlier.operands <:+ next.state.operands := by
  rcases Nat.lt_or_ge (place + 1) front.length with hopen | hnotyet
  · have hfront : ∀ other ∈ front, other.Plain := fun other hother =>
      hplain other (List.mem_append_left _ hother)
    obtain ⟨frame, hframe, hbase⟩ := hreads.exists_frame hfront (hcall.of_append hopen)
    have hnested := (hreads.sound hfront Stacks.sound_empty).agrees.nested
    have hmoves := Stacks.moves_of_receive (hplain token (by simp)) hstep.state
    exact hmoves.keeps hkept (hbase ▸ (Stacks.le_of_nested hnested hframe).1)
  · have hkind : token.kind = .identifier ∨ token.kind = .bracketOpen := by
      rcases Nat.eq_or_lt_of_le hplace with rfl | hlt
      · obtain ⟨function, hnamed⟩ := hcall.named
        rw [Token.CallRule.namedAt_length] at hnamed
        exact .inl (Token.CallRule.kind_of_calledBy hnamed)
      · have hopening := hcall.unmated.opening
        have hlast : place + 1 = front.length := Nat.le_antisymm hlt hnotyet
        rw [hlast, Token.kindAt_length] at hopening
        exact .inr (Option.some.inj hopening)
    rwa [hstep.operands_eq hkind]

theorem Reads.untouched {front : List Token} (hreads : Reads start front reader)
    (hfront : front <+: tokens) (hplain : ∀ token ∈ tokens, token.Plain)
    (hcall : OpenCall tokens place earlier) (hplace : place ≤ front.length) :
    earlier.operands <:+ reader.state.operands := by
  induction front using List.reverseRecOn generalizing reader with
  | nil =>
      obtain rfl := Nat.le_zero.mp hplace
      exact hreads.eq_of_reaches hcall.reached ▸ List.suffix_refl _
  | append_singleton front token ih =>
      rcases Nat.eq_or_lt_of_le hplace with rfl | hlt
      · have hearlier := hcall.reached
        rw [← List.prefix_iff_eq_take.mp hfront] at hearlier
        exact hreads.eq_of_reaches hearlier ▸ List.suffix_refl _
      · obtain ⟨mid, hmid, hlast⟩ := reads_append_iff.mp hreads
        have hle : place ≤ front.length := by
          rw [List.length_append, List.length_singleton] at hlt
          omega
        have hkept := ih hmid ((List.prefix_append front [token]).trans hfront) hle
        obtain ⟨more, rfl⟩ := hfront
        rw [List.append_assoc] at hplain hcall
        exact (reads_singleton_iff.mp hlast).untouched hmid hplain hcall hle hkept

end

end Reader

namespace Stacks

-- Where the check has accepted the tokens, the stacks are consistent from the first
-- token to the last.
theorem consistent_of_check (tokens before : List Token) (state : Stacks)
    (hplain : ∀ token ∈ tokens, token.Plain) (hcheck : Token.CallRule.check tokens = .ok ())
    (hbefore : before <+: tokens) (hreaches : Reaches before state) : Consistent before state := by
  have hplainBefore : ∀ token ∈ before, token.Plain := fun token htoken =>
    hplain token (hbefore.subset htoken)
  obtain ⟨spans, -, hreads⟩ := hreaches.reads hcheck hbefore
  have hsound := hreads.sound hplainBefore sound_empty
  have hrises := hreads.rises hplainBefore .nil
  refine ⟨(hreads.placed hplainBefore).exists_marks, fun _ => hsound.agrees.known, ?rising,
    hsound.agrees.nested, hsound.floor_le, ?untouched⟩
  case rising =>
    intro symbols hrun
    have htighter := tighter_of_rises hrises hrun
    exact ⟨htighter, length_le_two htighter⟩
  case untouched =>
    intro place function earlier hunmated hnamed hearlier front later hfront hplace hlater
    obtain ⟨_, -, hreadsLater⟩ := hlater.reads hcheck (hfront.trans hbefore)
    have hcall : OpenCall before place earlier := ⟨hunmated, ⟨function, hnamed⟩, hearlier⟩
    exact hreadsLater.untouched hfront hplainBefore hcall hplace

-- Two operators wait between the open calls, and one below both of them.
theorem consistent_of_check_nested :
    let tokens : List Token := [⟨.number, "1"⟩, ⟨.operator, "-"⟩, ⟨.identifier, "power"⟩,
      ⟨.bracketOpen, "("⟩, ⟨.number, "2"⟩, ⟨.comma, ","⟩, ⟨.number, "3"⟩, ⟨.operator, "+"⟩,
      ⟨.number, "4"⟩, ⟨.operator, "*"⟩, ⟨.identifier, "sqrt"⟩, ⟨.bracketOpen, "("⟩,
      ⟨.number, "5"⟩, ⟨.bracketClose, ")"⟩, ⟨.bracketClose, ")"⟩]
    let number (n : Int) : Expr := .number (Binary64.ofInt n)
    let state : Stacks := ⟨[number 5, number 4, number 3, number 2, number 1],
      [.call "sqrt", .operator "*", .operator "+", .call "power", .operator "-"],
      [⟨"sqrt", 4, 0⟩, ⟨"power", 1, 1⟩]⟩
    (∀ token ∈ tokens, token.Plain) ∧ Token.CallRule.check tokens = .ok () ∧
      tokens.take 13 <+: tokens ∧ Reaches (tokens.take 13) state ∧
      Consistent (tokens.take 13) state := by
  intro tokens number state
  have hplain : ∀ token ∈ tokens, token.Plain := by decide
  have hcheck : Token.CallRule.check tokens = .ok () := by decide
  have h1 : Decimal.read? "1" = some (Binary64.ofInt 1) := by decide +kernel
  have h2 : Decimal.read? "2" = some (Binary64.ofInt 2) := by decide +kernel
  have h3 : Decimal.read? "3" = some (Binary64.ofInt 3) := by decide +kernel
  have h4 : Decimal.read? "4" = some (Binary64.ofInt 4) := by decide +kernel
  have h5 : Decimal.read? "5" = some (Binary64.ofInt 5) := by decide +kernel
  have hreaches : Reaches (tokens.take 13) state := by
    apply reaches_iff.mpr
    simp only [tokens, List.take_succ_cons, List.take_zero, readFrom, step, Stacks.number, h1, h2,
      h3, h4, h5]
    rfl
  have hbefore := List.take_prefix 13 tokens
  exact ⟨hplain, hcheck, hbefore, hreaches,
    consistent_of_check tokens _ state hplain hcheck hbefore hreaches⟩

end Stacks

end Reckoner
