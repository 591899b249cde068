import Reckoner.Proofs.Reader
import Reckoner.Proofs.Token.Lexed
import Reckoner.Proofs.Token.Matching

namespace Reckoner.Reader

open Token (Shut Balanced shut_nil balanced_nil balanced_singleton)
open Token.CallRule (Span calledBy countComma)

variable {tokens group : List Token} {spans : List (Option Span)} {waiting : List Waiting}
  {calls : List Frame} {token closing : Token}

-- Both passes hold their open brackets where the text opens them. Below each is
-- what they held when they came to it, and behind it nothing is open.
inductive Placed : List Token → List (Option Span) → List Waiting → List Frame → Prop
  | nil {tokens : List Token} : Shut tokens → Placed tokens [] [] []
  | operator {tokens : List Token} {spans : List (Option Span)} {waiting : List Waiting}
      {calls : List Frame} {symbol : String} :
      Placed tokens spans waiting calls → Placed tokens spans (.operator symbol :: waiting) calls
  | bracket {front inner : List Token} {opening : Token} {earlier : Reader} :
      Reads start front earlier →
      Placed front earlier.spans earlier.state.waiting earlier.state.calls →
      calledBy earlier.previous = none → opening.kind = .bracketOpen → Balanced inner →
      Placed (front ++ opening :: inner) (none :: earlier.spans)
        (.bracket :: earlier.state.waiting) earlier.state.calls
  | call {front inner : List Token} {name opening : Token} {function : Function}
      {earlier : Reader} {finished : Nat} :
      Reads start front earlier →
      Placed front earlier.spans earlier.state.waiting earlier.state.calls →
      calledBy earlier.previous = none → calledBy (some name) = some function →
      opening.kind = .bracketOpen → Balanced inner →
      Placed (front ++ name :: opening :: inner) (some ⟨function, finished⟩ :: earlier.spans)
        (.call function.name :: earlier.state.waiting)
        (⟨function.name, earlier.state.operands.length, finished⟩ :: earlier.state.calls)

theorem Placed.append (h : Placed tokens spans waiting calls) (hgroup : Balanced group) :
    Placed (tokens ++ group) spans waiting calls := by
  induction h with
  | nil hshut => exact .nil (hshut.append hgroup.shut)
  | operator _ ih => exact .operator ih
  | bracket hreads hplaced hcalled hopening hinner =>
      rw [List.append_assoc, List.cons_append]
      exact .bracket hreads hplaced hcalled hopening (hinner.append hgroup)
  | call hreads hplaced hcalled hname hopening hinner =>
      rw [List.append_assoc, List.cons_append, List.cons_append]
      exact .call hreads hplaced hcalled hname hopening (hinner.append hgroup)

theorem Placed.concat (h : Placed tokens spans waiting calls) (hopening : token.kind ≠ .bracketOpen)
    (hclosing : token.kind ≠ .bracketClose) : Placed (tokens ++ [token]) spans waiting calls :=
  h.append (balanced_singleton hopening hclosing)

-- Operators that are applied leave the brackets below them as they are.
theorem Placed.applyWhile {due : String → Except EvalError Bool} {floor : Nat}
    {operands result : List Expr} {rest : List Waiting} (h : Placed tokens spans waiting calls)
    (happly : Stacks.applyWhile due floor waiting operands = .ok (rest, result)) :
    Placed tokens spans rest calls := by
  fun_induction Stacks.applyWhile due floor waiting operands with
  | case1 => cases happly
  | case2 =>
      cases happly
      exact h
  | case3 => cases happly
  | case4 symbol waiting operands hdue next hjoin ih =>
      cases h with
      | operator h => exact ih h happly
  | case5 =>
      cases happly
      exact h

theorem Placed.comma {name : String} {frame : Frame}
    (h : Placed tokens spans (.call name :: waiting) (frame :: calls))
    (hcomma : token.kind = .comma) :
    Placed (tokens ++ [token]) (countComma spans) (.call name :: waiting)
      ({ frame with finished := frame.finished + 1 } :: calls) := by
  cases h with
  | call hreads hplaced hcalled hname hopening hinner =>
      have hgroup := hinner.append
        (@balanced_singleton token (by simp [hcomma]) (by simp [hcomma]))
      rw [List.append_assoc, List.cons_append, List.cons_append]
      exact .call hreads hplaced hcalled hname hopening hgroup

-- With the mate of its bracket a text is back at what was held before it.
theorem Placed.closeBracket (h : Placed tokens spans (.bracket :: waiting) calls)
    (hclosing : closing.kind = .bracketClose) :
    ∃ outer, spans = none :: outer ∧ Placed (tokens ++ [closing]) outer waiting calls := by
  cases h with
  | bracket hreads hplaced hcalled hopening hinner =>
      have happend := hplaced.append (hinner.group hopening hclosing)
      exact ⟨_, rfl, by simpa using happend⟩

theorem Placed.closeCall {name : String} {frame : Frame}
    (h : Placed tokens spans (.call name :: waiting) (frame :: calls))
    (hclosing : closing.kind = .bracketClose) :
    ∃ span outer, spans = some span :: outer ∧
      Placed (tokens ++ [closing]) outer waiting calls := by
  cases h with
  | @call front inner identifier opening function earlier finished hreads hplaced hcalled hname
      hopening hinner =>
      have hkind := Token.CallRule.kind_of_calledBy hname
      have hsingle : Placed (front ++ [identifier]) earlier.spans _ _ :=
        hplaced.concat (by simp [hkind]) (by simp [hkind])
      have happend := hsingle.append (hinner.group hopening hclosing)
      exact ⟨_, _, rfl, by simpa using happend⟩

-- A name changes nothing by itself, so that its bracket finds what the name found.
theorem Reads.before_name {front : List Token} {mid : Reader} {function : Function}
    (h : Reads start front mid) (hcalled : calledBy mid.previous = some function) :
    ∃ shorter name earlier, front = shorter ++ [name] ∧ Reads start shorter earlier ∧
      calledBy (some name) = some function ∧ calledBy earlier.previous = none ∧
      mid.spans = earlier.spans ∧ mid.state = earlier.state := by
  rcases List.eq_nil_or_concat front with rfl | ⟨shorter, name, rfl⟩
  · obtain rfl := reads_nil_iff.mp h
    cases hcalled
  · rw [List.concat_eq_append] at h ⊢
    obtain ⟨earlier, hearlier, hlast⟩ := reads_append_iff.mp h
    obtain ⟨hprevious, hspans, hstate⟩ := reads_singleton_iff.mp hlast
    rw [hprevious] at hcalled
    have hkind := Token.CallRule.kind_of_calledBy hcalled
    have hnone := Token.CallRule.calledBy_of_scanOne hspans (by simp [hkind])
    simp only [Token.CallRule.scanOne, hnone, hkind, Except.ok.injEq] at hspans
    simp only [Stacks.receive, hkind] at hstate
    obtain ⟨_, -, hstate⟩ := map_eq_ok_iff.mp hstate
    exact ⟨shorter, name, earlier, rfl, hearlier, hcalled, hnone, hspans.symm, hstate⟩

theorem Placed.opening {front : List Token} {mid next : Reader} (hreads : Reads start front mid)
    (h : ∀ shorter earlier, shorter <+: front → Reads start shorter earlier →
      Placed shorter earlier.spans earlier.state.waiting earlier.state.calls)
    (hstep : Steps mid token next) (hplain : token.Plain) (hkind : token.kind = .bracketOpen) :
    Placed (front ++ [token]) next.spans next.state.waiting next.state.calls := by
  obtain ⟨-, hspans, hstate⟩ := hstep
  cases hcalled : calledBy mid.previous with
  | none =>
      have hplaced := h front mid (List.prefix_refl front) hreads
      simp only [Token.CallRule.scanOne, hcalled, hkind, Except.ok.injEq] at hspans
      simp only [Stacks.receive, hcalled, hkind, Stacks.openBracket, hplain.opening hkind,
        ite_true, Except.ok.injEq] at hstate
      rw [← hspans, ← hstate]
      exact .bracket hreads hplaced hcalled hkind balanced_nil
  | some function =>
      obtain ⟨shorter, name, earlier, rfl, hearlier, hname, hnone, hsame, hstill⟩ :=
        hreads.before_name hcalled
      have hplaced := h shorter earlier (List.prefix_append shorter [name]) hearlier
      obtain ⟨-, hspans⟩ := Token.CallRule.eq_of_scanOne_of_calledBy hcalled hspans
      simp only [Stacks.receive, hkind, hcalled, Stacks.openCall_name, Except.ok.injEq] at hstate
      rw [hspans, hsame, ← hstate, hstill, List.append_assoc]
      exact .call hearlier hplaced hnone hname hkind balanced_nil

theorem Placed.step {mid next : Reader}
    (h : Placed tokens mid.spans mid.state.waiting mid.state.calls) (hstep : Steps mid token next)
    (hopening : token.kind ≠ .bracketOpen) :
    Placed (tokens ++ [token]) next.spans next.state.waiting next.state.calls := by
  obtain ⟨-, hspans, hstate⟩ := hstep
  have hnone := Token.CallRule.calledBy_of_scanOne hspans hopening
  unfold Token.CallRule.scanOne at hspans
  rw [hnone] at hspans
  unfold Stacks.receive at hstate
  cases hkind : token.kind with
  | bracketOpen => exact absurd hkind hopening
  | identifier =>
      simp only [hkind, Except.ok.injEq] at hspans hstate
      obtain ⟨_, -, hstate⟩ := map_eq_ok_iff.mp hstate
      rw [← hspans, hstate]
      exact h.concat (by simp [hkind]) (by simp [hkind])
  | number =>
      simp only [hkind, Except.ok.injEq] at hspans hstate
      obtain ⟨value, -, hnumber⟩ := Stacks.number_cases hstate
      rw [← hspans, hnumber]
      exact h.concat (by simp [hkind]) (by simp [hkind])
  | operator =>
      simp only [hkind, Except.ok.injEq] at hspans hstate
      obtain ⟨binding, waiting, operands, -, happly, hoperator⟩ := Stacks.operator_cases hstate
      rw [← hspans, hoperator]
      exact .operator ((h.applyWhile happly).concat (by simp [hkind]) (by simp [hkind]))
  | comma =>
      simp only [hkind, Except.ok.injEq] at hspans hstate
      obtain ⟨name, waiting, frame, calls, operands, happly, hcalls, -, hcomma⟩ :=
        Stacks.comma_cases hstate
      have happlied := h.applyWhile happly
      rw [hcalls] at happlied
      rw [← hspans, hcomma]
      exact happlied.comma hkind
  | bracketClose =>
      simp only [hkind] at hspans hstate
      rcases Stacks.close_cases hstate with
        ⟨waiting, operands, happly, hclose⟩ |
        ⟨name, waiting, frame, calls, operands, happly, hcalls, -, hclose⟩
      · obtain ⟨outer, houter, hplaced⟩ := (h.applyWhile happly).closeBracket hkind
        rw [houter] at hspans
        obtain ⟨_, -, hspans⟩ := map_eq_ok_iff.mp hspans
        rw [hspans, hclose]
        exact hplaced
      · have happlied := h.applyWhile happly
        rw [hcalls] at happlied
        obtain ⟨span, outer, houter, hplaced⟩ := happlied.closeCall hkind
        rw [houter] at hspans
        obtain ⟨_, -, hspans⟩ := map_eq_ok_iff.mp hspans
        rw [hspans, hclose]
        exact hplaced

-- Whatever the passes have read, their open brackets are in place. A name alone
-- is no more than a text that ends in it, so the shorter texts are kept as well.
theorem Reads.placed {reader : Reader} (h : Reads start tokens reader)
    (hplain : ∀ token ∈ tokens, token.Plain) :
    Placed tokens reader.spans reader.state.waiting reader.state.calls := by
  have hall : ∀ shorter earlier, shorter <+: tokens → Reads start shorter earlier →
      Placed shorter earlier.spans earlier.state.waiting earlier.state.calls := by
    clear h
    induction tokens using List.reverseRecOn with
    | nil =>
        intro shorter earlier hshorter hreads
        obtain rfl := List.prefix_nil.mp hshorter
        obtain rfl := reads_nil_iff.mp hreads
        exact .nil shut_nil
    | append_singleton front token ih =>
        intro shorter earlier hshorter hreads
        have hfront := ih fun token htoken => hplain token (List.mem_append_left _ htoken)
        rcases List.prefix_concat_iff.mp hshorter with rfl | hshorter
        · obtain ⟨mid, hmid, hlast⟩ := reads_append_iff.mp hreads
          have hstep := reads_singleton_iff.mp hlast
          by_cases hkind : token.kind = .bracketOpen
          · exact .opening hmid hfront hstep (hplain token (by simp)) hkind
          · exact (hfront front mid (List.prefix_refl front) hmid).step hstep hkind
        · exact hfront shorter earlier hshorter hreads
  exact hall tokens reader (List.prefix_refl tokens) h

end Reckoner.Reader
