import Mathlib.Data.List.Induction
import Reckoner.Token.Matching

namespace Reckoner.Token

variable {tokens front back inner before after rest : List Token} {token opening closing : Token}

theorem opens_cons (token : Token) (rest : List Token) :
    opens (token :: rest) = opens rest + if token.kind = .bracketOpen then 1 else 0 := by
  simp [opens, List.countP_cons]

theorem closes_cons (token : Token) (rest : List Token) :
    closes (token :: rest) = closes rest + if token.kind = .bracketClose then 1 else 0 := by
  simp [closes, List.countP_cons]

@[simp] theorem opens_append (front back : List Token) :
    opens (front ++ back) = opens front + opens back := List.countP_append

@[simp] theorem closes_append (front back : List Token) :
    closes (front ++ back) = closes front + closes back := List.countP_append

@[simp] theorem opens_nil : opens [] = 0 := rfl

@[simp] theorem closes_nil : closes [] = 0 := rfl

theorem balanced_nil : Balanced [] where
  total := rfl
  fronts front hfront := by simp [List.prefix_nil.mp hfront]

theorem balanced_singleton (hopening : token.kind ≠ .bracketOpen)
    (hclosing : token.kind ≠ .bracketClose) : Balanced [token] where
  total := by simp [opens_cons, closes_cons, hopening, hclosing]
  fronts front hfront := by
    have hle : closes front ≤ closes [token] := hfront.sublist.countP_le
    have hzero : closes [token] = 0 := by simp [closes_cons, hclosing]
    omega

theorem Balanced.append (hfront : Balanced front) (hback : Balanced back) :
    Balanced (front ++ back) where
  total := by rw [opens_append, closes_append, hfront.total, hback.total]
  fronts other hother := by
    obtain ⟨more, hsplit⟩ := hother
    rcases List.append_eq_append_iff.mp hsplit with ⟨gap, hgap, -⟩ | ⟨gap, hgap, hmore⟩
    · exact hfront.fronts other ⟨gap, hgap.symm⟩
    · have htotal := hfront.total
      have hle := hback.fronts gap ⟨more, hmore.symm⟩
      rw [hgap, opens_append, closes_append]
      omega

-- A bracket and its mate around a balanced text.
theorem Balanced.group (h : Balanced inner) (hopening : opening.kind = .bracketOpen)
    (hclosing : closing.kind = .bracketClose) : Balanced (opening :: inner ++ [closing]) where
  total := by
    have htotal := h.total
    simp [opens_cons, closes_cons, hopening, hclosing]
    omega
  fronts front hfront := by
    obtain ⟨more, hsplit⟩ := hfront
    rcases List.append_eq_append_iff.mp hsplit with ⟨gap, hgap, -⟩ | ⟨gap, hgap, hmore⟩
    · cases front with
      | nil => exact Nat.le_refl _
      | cons first front =>
          obtain ⟨rfl, rfl⟩ := List.cons.inj hgap
          have hle := h.fronts front (List.prefix_append front gap)
          simp [opens_cons, closes_cons, hopening]
          omega
    · have htotal := h.total
      have hle : closes gap ≤ closes [closing] := by rw [hmore]; simp
      simp only [closes_cons, hclosing, closes_nil, ite_true] at hle
      simp [hgap, opens_cons, closes_cons, hopening]
      omega

-- No bracket of the tokens stays open. Others may be closed in them that they
-- do not open.
def Shut (tokens : List Token) : Prop := ∀ back, back <:+ tokens → opens back ≤ closes back

theorem shut_nil : Shut [] := fun back hback => by simp [List.suffix_nil.mp hback]

theorem Balanced.shut (h : Balanced tokens) : Shut tokens := by
  rintro back ⟨front, rfl⟩
  have htotal := h.total
  have hfront := h.fronts front (List.prefix_append front back)
  rw [opens_append, closes_append] at htotal
  omega

theorem Shut.balanced (h : Shut tokens) (htotal : closes tokens = opens tokens) :
    Balanced tokens where
  total := htotal
  fronts front hfront := by
    obtain ⟨back, rfl⟩ := hfront
    have hback := h back (List.suffix_append front back)
    rw [opens_append, closes_append] at htotal
    omega

theorem Shut.append (hfront : Shut front) (hback : Shut back) : Shut (front ++ back) := by
  rintro other ⟨more, hsplit⟩
  rcases List.append_eq_append_iff.mp hsplit with ⟨gap, hgap, hother⟩ | ⟨gap, -, hgap⟩
  · have hshort := hfront gap ⟨more, hgap.symm⟩
    have hwhole := hback back (List.suffix_refl back)
    rw [hother, opens_append, closes_append]
    omega
  · exact hback other ⟨gap, hgap.symm⟩

theorem shut_singleton (h : token.kind ≠ .bracketOpen) : Shut [token] := by
  intro back hback
  rcases List.suffix_cons_iff.mp hback with rfl | hback
  · simp [opens_cons, h]
  · simp [List.suffix_nil.mp hback]

-- Where more is closed than opened, there is a first bracket that closes nothing
-- of the text itself.
theorem exists_closing_of_front
    (h : ∃ front, front <+: tokens ∧ opens front < closes front) :
    ∃ inner closing after, tokens = inner ++ closing :: after ∧ closing.kind = .bracketClose ∧
      Balanced inner := by
  induction tokens using List.reverseRecOn with
  | nil =>
      obtain ⟨front, hfront, hlt⟩ := h
      simp [List.prefix_nil.mp hfront] at hlt
  | append_singleton tokens token ih =>
      by_cases hshort : ∃ front, front <+: tokens ∧ opens front < closes front
      · obtain ⟨inner, closing, after, rfl, hclosing, hinner⟩ := ih hshort
        exact ⟨inner, closing, after ++ [token], by simp, hclosing, hinner⟩
      · have hfronts : ∀ front, front <+: tokens → closes front ≤ opens front :=
          fun front hfront => Nat.le_of_not_lt fun hlt => hshort ⟨front, hfront, hlt⟩
        obtain ⟨front, hfront, hlt⟩ := h
        rcases List.prefix_concat_iff.mp hfront with rfl | hfront
        · have hle := hfronts tokens (List.prefix_refl tokens)
          have hclosing : token.kind = .bracketClose := by
            by_contra hother
            simp only [opens_append, closes_append, closes_cons, hother, ite_false,
              closes_nil] at hlt
            omega
          simp only [opens_append, closes_append, opens_cons, closes_cons, hclosing, opens_nil,
            closes_nil, reduceCtorEq, ite_true, ite_false] at hlt
          exact ⟨tokens, token, [], rfl, hclosing, by omega, hfronts⟩
        · exact absurd (hfronts front hfront) (by omega)

-- Where more is opened than closed, there is a last bracket that stays open.
theorem exists_opening_of_back (h : ∃ back, back <:+ tokens ∧ closes back < opens back) :
    ∃ before opening inner, tokens = before ++ opening :: inner ∧ opening.kind = .bracketOpen ∧
      Balanced inner := by
  induction tokens with
  | nil =>
      obtain ⟨back, hback, hlt⟩ := h
      simp [List.suffix_nil.mp hback] at hlt
  | cons token tokens ih =>
      by_cases hshort : ∃ back, back <:+ tokens ∧ closes back < opens back
      · obtain ⟨before, opening, inner, rfl, hopening, hinner⟩ := ih hshort
        exact ⟨token :: before, opening, inner, rfl, hopening, hinner⟩
      · have hshut : Shut tokens :=
          fun back hback => Nat.le_of_not_lt fun hlt => hshort ⟨back, hback, hlt⟩
        obtain ⟨back, hback, hlt⟩ := h
        rcases List.suffix_cons_iff.mp hback with rfl | hback
        · have hle := hshut tokens (List.suffix_refl tokens)
          have hopening : token.kind = .bracketOpen := by
            by_contra hother
            simp only [opens_cons, closes_cons, hother, ite_false] at hlt
            omega
          simp only [opens_cons, closes_cons, hopening, reduceCtorEq, ite_true, ite_false] at hlt
          exact ⟨[], token, tokens, rfl, hopening, hshut.balanced (by omega)⟩
        · exact absurd (hshut back hback) (by omega)

theorem kindAt_eq_some_iff {place : Nat} {kind : TokenKind} :
    kindAt tokens place = some kind ↔
      ∃ before token after, tokens = before ++ token :: after ∧ before.length = place ∧
        token.kind = kind := by
  constructor
  · intro h
    obtain ⟨token, htoken, hkind⟩ := Option.map_eq_some_iff.mp h
    obtain ⟨hlt, rfl⟩ := List.getElem?_eq_some_iff.mp htoken
    refine ⟨tokens.take place, tokens[place], tokens.drop (place + 1), ?_, ?_, hkind⟩
    · rw [List.getElem_cons_drop, List.take_append_drop]
    · exact List.length_take_of_le (Nat.le_of_lt hlt)
  · rintro ⟨before, token, after, rfl, rfl, rfl⟩
    simp [kindAt]

theorem kindAt_length (before : List Token) (token : Token) (after : List Token) :
    kindAt (before ++ token :: after) before.length = some token.kind := by
  simp [kindAt]

theorem kindAt_append {place : Nat} (h : place < tokens.length) (more : List Token) :
    kindAt (tokens ++ more) place = kindAt tokens place := by
  rw [kindAt, kindAt, List.getElem?_append_left h]

theorem kindAt_length_add (front back : List Token) (place : Nat) :
    kindAt (front ++ back) (front.length + place) = kindAt back place := by
  rw [kindAt, kindAt, List.getElem?_append_right (Nat.le_add_right _ _), Nat.add_sub_cancel_left]

theorem lt_length_of_kindAt {place : Nat} {kind : TokenKind} (h : kindAt tokens place = some kind) :
    place < tokens.length := by
  obtain ⟨before, token, after, rfl, rfl, -⟩ := kindAt_eq_some_iff.mp h
  simp

theorem between_append {left right : Nat} (h : right ≤ tokens.length) (more : List Token) :
    between (tokens ++ more) left right = between tokens left right := by
  rw [between, between, List.take_append_of_le_length h]

theorem between_eq (before inner after : List Token) (token : Token) :
    between (before ++ token :: (inner ++ after)) before.length
      (before.length + inner.length + 1) = inner := by
  have htake : (before ++ token :: (inner ++ after)).take (before.length + inner.length + 1) =
      before ++ token :: inner := by
    have hassoc : before ++ token :: (inner ++ after) = (before ++ token :: inner) ++ after := by
      simp
    rw [hassoc]
    exact List.take_left' (by simp; omega)
  have hdrop : before ++ token :: inner = (before ++ [token]) ++ inner := by simp
  rw [between, htake, hdrop]
  exact List.drop_left' (by simp)

-- A place inside cuts in two what stands between two others.
theorem between_split {left place right : Nat} {kind : TokenKind} (hleft : left < place)
    (hright : place < right) (hkind : kindAt tokens place = some kind) :
    ∃ token, token.kind = kind ∧
      between tokens left right = between tokens left place ++ token :: between tokens place right := by
  obtain ⟨before, token, after, rfl, rfl, htoken⟩ := kindAt_eq_some_iff.mp hkind
  obtain ⟨more, rfl⟩ := Nat.exists_eq_add_of_lt hright
  refine ⟨token, htoken, ?_⟩
  have htake : (before ++ token :: after).take (before.length + more + 1) =
      before ++ token :: after.take more := by
    rw [Nat.add_assoc, List.take_length_add_append, List.take_succ_cons]
  have hlater : (before ++ token :: after.take more).drop (before.length + 1) = after.take more := by
    rw [List.drop_length_add_append, List.drop_succ_cons, List.drop_zero]
  have hearlier : (before ++ token :: after).take before.length = before := List.take_left
  simp only [between, htake, hlater, hearlier]
  rw [List.drop_append_of_le_length hleft]

theorem mates_append_iff {left right : Nat} (h : right < tokens.length) (more : List Token) :
    Mates (tokens ++ more) left right ↔ Mates tokens left right := by
  have hbetween := @between_append tokens left right (Nat.le_of_lt h) more
  have hright := kindAt_append h more
  constructor
  · rintro ⟨hlt, hopening, hclosing, hbalanced⟩
    rw [kindAt_append (Nat.lt_trans hlt h)] at hopening
    exact ⟨hlt, hopening, hright ▸ hclosing, hbetween ▸ hbalanced⟩
  · rintro ⟨hlt, hopening, hclosing, hbalanced⟩
    rw [← kindAt_append (Nat.lt_trans hlt h) more] at hopening
    exact ⟨hlt, hopening, hright.trans hclosing, hbetween.symm ▸ hbalanced⟩

theorem mates_of_balanced (hopening : opening.kind = .bracketOpen)
    (hclosing : closing.kind = .bracketClose) (hinner : Balanced inner) :
    Mates (before ++ opening :: (inner ++ closing :: after)) before.length
      (before.length + inner.length + 1) where
  lt := by omega
  opening := by rw [kindAt_length, hopening]
  closing := by
    have hassoc : before ++ opening :: (inner ++ closing :: after) =
        (before ++ opening :: inner) ++ closing :: after := by simp
    have hlength : before.length + inner.length + 1 = (before ++ opening :: inner).length := by
      simp; omega
    rw [hassoc, hlength, kindAt_length, hclosing]
  balanced := by rwa [between_eq]

-- The same place, as the end of what the closing bracket follows.
theorem mates_length (before after : List Token) (hopening : opening.kind = .bracketOpen)
    (hclosing : closing.kind = .bracketClose) (hinner : Balanced inner) :
    Mates (before ++ opening :: inner ++ closing :: after) before.length
      (before ++ opening :: inner).length := by
  have hmates := @mates_of_balanced _ before after _ _ hopening hclosing hinner
  have hlength : before.length + inner.length + 1 = (before ++ opening :: inner).length := by
    rw [List.length_append, List.length_cons, Nat.add_assoc]
  rw [hlength] at hmates
  rwa [List.append_assoc, List.cons_append]

theorem mates_iff {left right : Nat} :
    Mates tokens left right ↔ ∃ before opening inner closing after,
      tokens = before ++ opening :: (inner ++ closing :: after) ∧ before.length = left ∧
      before.length + inner.length + 1 = right ∧ opening.kind = .bracketOpen ∧
      closing.kind = .bracketClose ∧ Balanced inner := by
  constructor
  · rintro ⟨hlt, hleft, hright, hbalanced⟩
    obtain ⟨front, closing, after, rfl, rfl, hclosing⟩ := kindAt_eq_some_iff.mp hright
    rw [kindAt_append hlt] at hleft
    obtain ⟨before, opening, inner, rfl, rfl, hopening⟩ := kindAt_eq_some_iff.mp hleft
    have hlength : before.length + inner.length + 1 = (before ++ opening :: inner).length := by
      simp
      omega
    have hbetween := between_eq before inner (closing :: after) opening
    rw [hlength] at hbetween
    rw [List.append_assoc, List.cons_append, hbetween] at hbalanced
    exact ⟨before, opening, inner, closing, after, by simp, rfl, hlength, hopening, hclosing,
      hbalanced⟩
  · rintro ⟨before, opening, inner, closing, after, rfl, rfl, rfl, hopening, hclosing, hinner⟩
    exact mates_of_balanced hopening hclosing hinner

-- A bracket has its mate where whatever opens from it on is closed behind it.
theorem Shut.exists_mates (h : Shut back) {left : Nat} (hleft : front.length ≤ left)
    (hopening : kindAt (front ++ back) left = some .bracketOpen) :
    ∃ right, Mates (front ++ back) left right := by
  obtain ⟨before, opening, after, hsplit, rfl, hkind⟩ := kindAt_eq_some_iff.mp hopening
  have hback : opening :: after <:+ back := by
    refine List.suffix_of_suffix_length_le ⟨before, hsplit.symm⟩ (List.suffix_append front back) ?_
    have hlength := congrArg List.length hsplit
    simp only [List.length_append, List.length_cons] at hlength ⊢
    omega
  have hle := h _ hback
  simp only [opens_cons, closes_cons, hkind, reduceCtorEq, ite_true, ite_false] at hle
  obtain ⟨inner, closing, more, rfl, hclosing, hinner⟩ :=
    exists_closing_of_front ⟨after, List.prefix_refl after, by omega⟩
  rw [hsplit]
  exact ⟨_, mates_of_balanced hkind hclosing hinner⟩

theorem Shut.not_mates (h : Shut before) (left : Nat) :
    ¬Mates (before ++ closing :: rest) left before.length := by
  intro hmates
  obtain ⟨front, opening, inner, other, after, hsplit, -, hlength, hopening, -, hinner⟩ :=
    mates_iff.mp hmates
  have hassoc : before ++ closing :: rest = (front ++ opening :: inner) ++ other :: after := by
    rw [hsplit, List.append_assoc, List.cons_append]
  have hbefore : before = front ++ opening :: inner :=
    List.append_inj_left hassoc (by simp; omega)
  have hle := h _ ⟨front, hbefore.symm⟩
  have htotal := hinner.total
  simp only [opens_cons, closes_cons, hopening, reduceCtorEq, ite_true, ite_false] at hle
  omega

-- What opens no later than a bracket that stays open is closed before it or not at all.
theorem Mates.right_lt_of_opening {left right : Nat} (hopening : opening.kind = .bracketOpen)
    (hinner : Balanced inner) (h : Mates (before ++ opening :: inner) left right)
    (hleft : left ≤ before.length) : right < before.length := by
  obtain ⟨front, other, group, closing, after, hsplit, rfl, rfl, hother, hclosing, hgroup⟩ :=
    mates_iff.mp h
  by_contra hge
  have happend : (front ++ (other :: group ++ [closing])) ++ after =
      (before ++ [opening]) ++ inner := by simp [hsplit]
  -- the gap reaches from the open bracket to the end of the group
  obtain ⟨gap, hgap, hfront⟩ : ∃ gap, front ++ (other :: group ++ [closing]) =
      before ++ opening :: gap ∧ gap <+: inner := by
    rcases List.append_eq_append_iff.mp happend with ⟨gap, hlong, hafter⟩ | ⟨gap, hshort, hinner⟩
    · have hlength := congrArg List.length hlong
      simp at hlength
      have hnil : gap = [] := List.eq_nil_of_length_eq_zero (by omega)
      subst hnil
      exact ⟨[], by simpa using hlong.symm, List.nil_prefix⟩
    · exact ⟨gap, by simpa using hshort, ⟨after, hinner.symm⟩⟩
  have hback : opening :: gap <:+ other :: group ++ [closing] := by
    refine List.suffix_of_suffix_length_le ⟨before, hgap.symm⟩ (List.suffix_append front _) ?_
    have hlength := congrArg List.length hgap
    simp at hlength ⊢
    omega
  have hbacks := (hgroup.group hother hclosing).shut _ hback
  have hfronts := hinner.fronts gap hfront
  simp only [opens_cons, closes_cons, hopening, reduceCtorEq, ite_true, ite_false] at hbacks
  omega

theorem Mates.right_lt {left right : Nat} (h : Mates tokens left right) : right < tokens.length :=
  lt_length_of_kindAt h.closing

-- Two brackets cannot have one mate.
theorem Mates.left_unique {left other right : Nat} (h : Mates tokens left right)
    (hother : Mates tokens other right) : left = other := by
  have hbehind {first second : Nat} (hfirst : Mates tokens first right)
      (hsecond : Mates tokens second right) : ¬first < second := by
    intro hlt
    obtain ⟨token, hkind, hsplit⟩ := between_split hlt hsecond.lt hsecond.opening
    have hbacks := hfirst.balanced.shut _ ⟨_, hsplit.symm⟩
    have htotal := hsecond.balanced.total
    simp only [opens_cons, closes_cons, hkind, reduceCtorEq, ite_true, ite_false] at hbacks
    omega
  have hle := hbehind h hother
  have hge := hbehind hother h
  omega

theorem Mates.right_unique {left right other : Nat} (h : Mates tokens left right)
    (hother : Mates tokens left other) : right = other := by
  have hbefore {first second : Nat} (hfirst : Mates tokens left first)
      (hsecond : Mates tokens left second) : ¬first < second := by
    intro hlt
    obtain ⟨token, hkind, hsplit⟩ := between_split hfirst.lt hlt hfirst.closing
    have hfront : between tokens left first ++ [token] <+: between tokens left second :=
      ⟨between tokens first second, by rw [hsplit]; simp⟩
    have hfronts := hsecond.balanced.fronts _ hfront
    have htotal := hfirst.balanced.total
    simp only [opens_append, closes_append, opens_cons, closes_cons, hkind, opens_nil, closes_nil,
      reduceCtorEq, ite_true, ite_false] at hfronts
    omega
  have hle := hbefore h hother
  have hge := hbefore hother h
  omega

-- A bracket is the innermost one around a comma when whatever opens between the
-- two closes there as well.
theorem innermost_iff_balanced {front back : List Token} (hopening : opening.kind = .bracketOpen)
    (hclosing : closing.kind = .bracketClose) (hcomma : token.kind = .comma)
    (hinner : Balanced (front ++ token :: back)) :
    Innermost (before ++ opening :: (front ++ token :: back ++ closing :: after)) before.length
        (before.length + front.length + 1) ↔ Balanced front := by
  constructor
  · intro hinnermost
    by_contra hnot
    have hfronts : ∀ first, first <+: front → closes first ≤ opens first := fun first hfirst =>
      hinner.fronts first (hfirst.trans (List.prefix_append _ _))
    have hopen : closes front < opens front := by
      have hle := hfronts front (List.prefix_refl front)
      by_contra hge
      exact hnot ⟨by omega, hfronts⟩
    -- a bracket that is still open at the comma has its mate behind it
    obtain ⟨first, other, second, rfl, hother, hsecond⟩ :=
      exists_opening_of_back ⟨front, List.suffix_refl front, hopen⟩
    have htotal := hinner.total
    have hfirst := hfronts first (List.prefix_append _ _)
    have hbetween := hsecond.total
    simp only [opens_append, closes_append, opens_cons, closes_cons, hother, hcomma,
      reduceCtorEq, ite_true, ite_false] at htotal
    obtain ⟨third, mate, last, rfl, hmate, hthird⟩ :=
      exists_closing_of_front ⟨back, List.prefix_refl back, by omega⟩
    have hgroup : Balanced (second ++ token :: third) :=
      hsecond.append ((balanced_singleton (by simp [hcomma]) (by simp [hcomma])).append hthird)
    have hmates : Mates (before ++ opening :: (first ++ other :: second ++
        token :: (third ++ mate :: last) ++ closing :: after)) (before ++ opening :: first).length
        ((before ++ opening :: first).length + (second ++ token :: third).length + 1) := by
      have h := @mates_of_balanced _ (before ++ opening :: first) (last ++ closing :: after) _ _
        hother hmate hgroup
      simpa using h
    have hle := hinnermost.last (before ++ opening :: first).length
    simp only [List.length_append, List.length_cons] at hle hmates
    have hmate := hle (by omega) ⟨by omega, _, hmates.right_lt, by omega, hmates⟩
    omega
  · intro hfront
    have hmates := @mates_of_balanced _ before after _ _ hopening hclosing hinner
    refine ⟨⟨by omega, _, hmates.right_lt, by simp, hmates⟩, ?_⟩
    rintro other hlt ⟨-, right, -, hright, hother⟩
    by_contra hbehind
    -- what stands between the other bracket and the comma is a front of its inside
    -- and, with that bracket, a back of `front`
    have hplace : between (before ++ opening :: (front ++ token :: back ++ closing :: after))
        before.length (before.length + front.length + 1) = front := by
      have h := between_eq before front (token :: back ++ closing :: after) opening
      simpa using h
    obtain ⟨bracket, hkind, hback⟩ := between_split (Nat.lt_of_not_le hbehind) hlt hother.opening
    rw [hplace] at hback
    have hcommaAt : kindAt (before ++ opening :: (front ++ token :: back ++ closing :: after))
        (before.length + front.length + 1) = some .comma := by
      have h := kindAt_length (before ++ opening :: front) token (back ++ closing :: after)
      simpa [hcomma, Nat.add_assoc] using h
    obtain ⟨_, -, hinside⟩ := between_split hlt hright hcommaAt
    have hbacks := hfront.shut _ ⟨_, hback.symm⟩
    have hfronts := hother.balanced.fronts _ ⟨_, hinside.symm⟩
    simp only [opens_cons, closes_cons, hkind, reduceCtorEq, ite_true, ite_false] at hbacks
    omega

end Reckoner.Token
