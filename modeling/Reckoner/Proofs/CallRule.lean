import Reckoner.Proofs.Token.Opened
import Reckoner.Proofs.Token.Unmated

namespace Reckoner.Token.CallRule

variable {tokens before rest : List Token} {token opening closing : Token} {function : Function}
  {span : Option Span} {spans outer : List (Option Span)} {error other : EvalError}

theorem isOpening_getLast (before : List Token) (hopening : opening.kind = .bracketOpen)
    {inner : List Token} (hinner : Balanced inner) :
    isOpening (before ++ opening :: inner).getLast? ↔ inner = [] := by
  rcases List.eq_nil_or_concat inner with rfl | ⟨front, last, rfl⟩
  · simp [isOpening, hopening]
  · rw [List.concat_eq_append] at hinner ⊢
    have hlast := hinner.shut _ (List.suffix_append front [last])
    simp only [opens_cons, closes_cons, opens_nil, closes_nil] at hlast
    have hkind : last.kind ≠ .bracketOpen := by
      intro hkind
      simp [hkind] at hlast
    have hget : (before ++ opening :: (front ++ [last])).getLast? = some last := by
      rw [← List.cons_append, ← List.append_assoc, List.getLast?_concat]
    simp [hget, isOpening, hkind]

theorem calledAt_length (before : List Token) (token : Token) (rest : List Token) :
    calledAt (before ++ token :: rest) before.length = calledBy before.getLast? := by
  rw [calledAt, List.take_left]

theorem namedAt_length (before : List Token) (token : Token) (rest : List Token) :
    namedAt (before ++ token :: rest) before.length = calledBy (some token) := by
  simp [namedAt]

theorem calledAt_append {place : Nat} (h : place ≤ tokens.length) (more : List Token) :
    calledAt (tokens ++ more) place = calledAt tokens place := by
  rw [calledAt, calledAt, List.take_append_of_le_length h]

theorem lt_length_of_namedAt {place : Nat}
    (h : namedAt tokens place = some function) : place < tokens.length := by
  by_contra hge
  rw [namedAt, List.getElem?_eq_none (Nat.le_of_not_lt hge)] at h
  cases h

theorem calledAt_succ {place : Nat}
    (h : namedAt tokens place = some function) : calledAt tokens (place + 1) = some function := by
  have hlt := lt_length_of_namedAt h
  rw [calledAt, List.take_succ_eq_append_getElem hlt, List.getLast?_concat,
    ← List.getElem?_eq_getElem hlt, ← namedAt, h]

theorem isOpening_head_iff (before : List Token) (token : Token) (rest : List Token) :
    isOpening rest.head? ↔
      kindAt (before ++ token :: rest) (before.length + 1) = some .bracketOpen := by
  have hnext := kindAt_length_add (before ++ [token]) rest 0
  rw [List.append_assoc, List.singleton_append, List.length_append, List.length_singleton,
    Nat.add_zero] at hnext
  rw [hnext]
  cases rest <;> simp [isOpening, kindAt]

theorem faultAt_iff {place : Nat} :
    FaultAt tokens place error ↔
      (∃ function, namedAt tokens place = some function ∧
        kindAt tokens (place + 1) ≠ some .bracketOpen ∧
        error = .malformedFunctionCall function.name) ∨
      ∃ left function, Mates tokens left place ∧ calledAt tokens left = some function ∧
        argumentsOf tokens left place ≠ function.arity ∧
        error = .arity function.name function.arity := by
  constructor
  · rintro (⟨hnamed, hnext⟩ | ⟨hmates, hcalled, hwrong⟩)
    · exact .inl ⟨_, hnamed, hnext, rfl⟩
    · exact .inr ⟨_, _, hmates, hcalled, hwrong, rfl⟩
  · rintro (⟨function, hnamed, hnext, rfl⟩ | ⟨left, function, hmates, hcalled, hwrong, rfl⟩)
    · exact .bare hnamed hnext
    · exact .count hmates hcalled hwrong

-- No place has a function's name and a closing bracket.
theorem namedAt_of_mates {left right : Nat} (h : Mates tokens left right) :
    namedAt tokens right = none := by
  obtain ⟨token, htoken, hkind⟩ := Option.map_eq_some_iff.mp h.closing
  rw [namedAt, htoken, calledBy_of_kind_ne (by simp [hkind])]

theorem not_faultAt_of_kind (hname : calledBy (some token) = none)
    (hclosing : token.kind ≠ .bracketClose) (error : EvalError) :
    ¬FaultAt (before ++ token :: rest) before.length error := by
  rw [faultAt_iff, namedAt_length, hname]
  rintro (⟨_, hnamed, -, -⟩ | ⟨left, _, hmates, -, -, -⟩)
  · cases hnamed
  · have hkind := hmates.closing
    rw [kindAt_length] at hkind
    exact hclosing (Option.some.inj hkind)

theorem faultAt_name_iff (hname : calledBy (some token) = some function) :
    FaultAt (before ++ token :: rest) before.length error ↔
      isOpening rest.head? = false ∧ error = .malformedFunctionCall function.name := by
  have hnamed := (namedAt_length before token rest).trans hname
  rw [faultAt_iff, ← Bool.not_eq_true, isOpening_head_iff before token rest, hnamed]
  constructor
  · rintro (⟨_, ⟨⟩, hnext, rfl⟩ | ⟨left, _, hmates, -, -, -⟩)
    · exact ⟨hnext, rfl⟩
    · rw [namedAt_of_mates hmates] at hnamed
      cases hnamed
  · rintro ⟨hnext, rfl⟩
    exact .inl ⟨function, rfl, hnext, rfl⟩

theorem faultAt_closing_iff (hclosing : closing.kind = .bracketClose) :
    FaultAt (before ++ closing :: rest) before.length error ↔
      ∃ left function, Mates (before ++ closing :: rest) left before.length ∧
        calledAt (before ++ closing :: rest) left = some function ∧
        argumentsOf (before ++ closing :: rest) left before.length ≠ function.arity ∧
        error = .arity function.name function.arity := by
  rw [faultAt_iff, namedAt_length, calledBy_of_kind_ne (by simp [hclosing])]
  exact or_iff_right fun ⟨_, hnamed, _⟩ => by cases hnamed

-- A closing bracket that closes nothing is passed over.
theorem not_faultAt_stray (h : Opened before []) (hclosing : closing.kind = .bracketClose)
    (error : EvalError) : ¬FaultAt (before ++ closing :: rest) before.length error := by
  rw [faultAt_closing_iff hclosing]
  rintro ⟨left, function, hmates, -, -, -⟩
  cases h with
  | nil hshut => exact hshut.not_mates left hmates

-- At the mate of the innermost open bracket the call that it opens is judged.
theorem faultAt_innermost_iff (h : Opened before (span :: outer))
    (hclosing : closing.kind = .bracketClose) :
    FaultAt (before ++ closing :: rest) before.length error ↔
      close before.getLast? span = .error error := by
  rw [faultAt_closing_iff hclosing]
  cases h with
  | @cons before inner opening _ hbefore hopening hinner =>
      have hassoc : before ++ opening :: inner ++ closing :: rest =
          before ++ opening :: (inner ++ closing :: rest) := by simp
      have hmates := mates_length before rest hopening hclosing hinner
      have hcalled := calledAt_length before opening (inner ++ closing :: rest)
      have hnil : isOpening (before ++ opening :: inner).getLast? ↔ inner = [] :=
        isOpening_getLast before hopening hinner
      have hcount (function : Function) :
          argumentCount (before ++ opening :: inner).getLast? ⟨function, ownCommas inner⟩ =
            argumentsOf (before ++ opening :: (inner ++ closing :: rest)) before.length
              (before ++ opening :: inner).length := by
        rw [argumentCount, argumentsOf, commasOf_eq before rest hopening hclosing hinner]
        refine if_congr (hnil.trans ?_) rfl rfl
        rw [← List.length_eq_zero_iff, List.length_append, List.length_cons]
        omega
      rw [hassoc] at hmates ⊢
      constructor
      · rintro ⟨left, function, hother, hfunction, hwrong, rfl⟩
        obtain rfl := hother.left_unique hmates
        rw [hcalled] at hfunction
        simp only [hfunction, Option.map_some, close, hcount, if_neg hwrong]
      · intro hclose
        cases hfunction : calledBy before.getLast? with
        | none =>
            rw [hfunction] at hclose
            cases hclose
        | some function =>
            simp only [hfunction, Option.map_some, close, hcount] at hclose
            split at hclose
            · cases hclose
            · rename_i hwrong
              cases hclose
              exact ⟨before.length, function, hmates, hcalled.trans hfunction, hwrong, rfl⟩

-- One token is either at fault or leaves the check with the brackets that are
-- open behind it.
theorem checkFrom_cons_of_opened (h : Opened before spans) (token : Token) (rest : List Token) :
    (∃ error, checkFrom spans before.getLast? (token :: rest) = .error error ∧
      FaultAt (before ++ token :: rest) before.length error) ∨
    ∃ next, checkFrom spans before.getLast? (token :: rest) = checkFrom next (some token) rest ∧
      Opened (before ++ [token]) next ∧
      ∀ error, ¬FaultAt (before ++ token :: rest) before.length error := by
  cases hkind : token.kind with
  | identifier =>
      have hnext : Opened (before ++ [token]) spans :=
        h.concat_other (by simp [hkind]) (by simp [hkind]) (by simp [hkind])
      have hname := calledBy_identifier hkind
      simp only [checkFrom, hkind, Function.isName]
      rcases Option.eq_none_or_eq_some (Function.named? token.lexeme) with
        hnone | ⟨function, hsome⟩
      · refine .inr ⟨spans, by simp [hnone], hnext, ?_⟩
        exact not_faultAt_of_kind (hname.trans hnone) (by simp [hkind])
      · have hiff {error : EvalError} :=
          @faultAt_name_iff before rest token function error (hname.trans hsome)
        cases hopening : isOpening rest.head? with
        | true =>
            exact .inr ⟨spans, by simp, hnext, fun _ hfault => by simp [hiff, hopening] at hfault⟩
        | false =>
            have hlexeme := Function.name_of_named? hsome
            refine .inl ⟨.malformedFunctionCall token.lexeme, by simp [hsome], ?_⟩
            exact hiff.mpr ⟨hopening, by rw [hlexeme]⟩
  | bracketOpen =>
      refine .inr ⟨_, by simp only [checkFrom, hkind], h.concat_opening hkind, ?_⟩
      exact not_faultAt_of_kind (calledBy_of_kind_ne (by simp [hkind])) (by simp [hkind])
  | comma =>
      refine .inr ⟨_, by simp only [checkFrom, hkind], h.concat_comma hkind, ?_⟩
      exact not_faultAt_of_kind (calledBy_of_kind_ne (by simp [hkind])) (by simp [hkind])
  | bracketClose =>
      cases spans with
      | nil =>
          exact .inr ⟨[], by simp only [checkFrom, hkind], h.concat_stray hkind,
            not_faultAt_stray h hkind⟩
      | cons span outer =>
          have hiff {error : EvalError} :=
            @faultAt_innermost_iff before rest _ span outer error h hkind
          simp only [checkFrom, hkind]
          cases hclose : close before.getLast? span with
          | error error => exact .inl ⟨error, rfl, hiff.mpr hclose⟩
          | ok =>
              exact .inr ⟨outer, rfl, h.concat_closing hkind,
                fun error hfault => by simp [hiff, hclose] at hfault⟩
  | number | operator =>
      refine .inr ⟨spans, by simp only [checkFrom, hkind],
        h.concat_other (by simp [hkind]) (by simp [hkind]) (by simp [hkind]), ?_⟩
      exact not_faultAt_of_kind (calledBy_of_kind_ne (by simp [hkind])) (by simp [hkind])

-- The call that opened first is the last one that the check holds open.
theorem unclosed_cons (span : Option Span) (spans : List (Option Span)) :
    unclosed (span :: spans) =
      (unclosed spans).bind fun _ =>
        match span with
        | some span => .error (.malformedFunctionCall span.function.name)
        | none => .ok () := by
  cases span with
  | none =>
      unfold unclosed
      rw [List.filterMap_cons_none rfl]
      cases (spans.filterMap id).getLast? <;> rfl
  | some span =>
      unfold unclosed
      rw [List.filterMap_cons_some (show id (some span) = some span from rfl), List.getLast?_cons]
      cases (spans.filterMap id).getLast? <;> rfl

theorem unclosedAt_iff {left : Nat} :
    UnclosedAt tokens left function ↔
      Unmated tokens left ∧ calledAt tokens left = some function := by
  constructor
  · rintro ⟨hopening, hcalled, hunmated⟩
    exact ⟨⟨hopening, hunmated⟩, hcalled⟩
  · rintro ⟨⟨hopening, hunmated⟩, hcalled⟩
    exact ⟨hopening, hcalled, hunmated⟩

theorem not_unclosedAt_of_shut {front back : List Token} (hshut : Shut back) {left : Nat}
    (hleft : front.length ≤ left) : ¬UnclosedAt (front ++ back) left function := by
  rw [unclosedAt_iff]
  exact fun hunclosed => hshut.not_unmated front hleft hunclosed.1

theorem unclosedAt_opening_iff (hopening : opening.kind = .bracketOpen) {inner : List Token}
    (hinner : Balanced inner) :
    UnclosedAt (before ++ opening :: inner) before.length function ↔
      calledBy before.getLast? = some function := by
  rw [unclosedAt_iff, unmated_opening_iff hopening hinner, calledAt_length]
  simp

theorem unclosedAt_append_iff (hopening : opening.kind = .bracketOpen) {inner : List Token}
    (hinner : Balanced inner) {left : Nat} (hleft : left < before.length) :
    UnclosedAt (before ++ opening :: inner) left function ↔ UnclosedAt before left function := by
  rw [unclosedAt_iff, unclosedAt_iff, unmated_opening_iff hopening hinner,
    calledAt_append (Nat.le_of_lt hleft), or_iff_right (Nat.ne_of_lt hleft)]

theorem unclosed_of_opened (h : Opened tokens spans) :
    (unclosed spans = .ok () ∧ ∀ left function, ¬UnclosedAt tokens left function) ∨
    ∃ left function, unclosed spans = .error (.malformedFunctionCall function.name) ∧
      UnclosedAt tokens left function ∧
      ∀ earlier < left, ∀ other, ¬UnclosedAt tokens earlier other := by
  induction h with
  | @nil tokens hshut =>
      exact .inl ⟨rfl, fun left function =>
        @not_unclosedAt_of_shut function [] tokens hshut left (Nat.zero_le left)⟩
  | @cons before inner opening spans hbefore hopening hinner ih =>
      rw [unclosed_cons]
      have hearlier {function : Function} {left : Nat} (hleft : left < before.length) :=
        @unclosedAt_append_iff before opening function hopening inner hinner left hleft
      have hhere {function : Function} :=
        @unclosedAt_opening_iff before opening function hopening inner hinner
      have hlater {function : Function} {left : Nat} (hleft : before.length < left) :
          ¬UnclosedAt (before ++ opening :: inner) left function := by
        have hnone := @not_unclosedAt_of_shut function (before ++ [opening]) inner hinner.shut
          left (by simp; omega)
        simpa using hnone
      rcases ih with ⟨hclosed, hnone⟩ | ⟨left, function, hopen, hunclosed, hfirst⟩
      · cases hcalled : calledBy before.getLast? with
        | none =>
            refine .inl ⟨by rw [hclosed]; rfl, fun left function => ?_⟩
            rcases Nat.lt_trichotomy left before.length with hleft | rfl | hleft
            · exact fun h => hnone left function ((hearlier hleft).mp h)
            · simp [hhere, hcalled]
            · exact hlater hleft
        | some function =>
            refine .inr ⟨before.length, function, by rw [hclosed]; rfl, hhere.mpr hcalled, ?_⟩
            exact fun earlier hlt other h => hnone earlier other ((hearlier hlt).mp h)
      · have hlt : left < before.length := lt_length_of_kindAt hunclosed.opening
        refine .inr ⟨left, function, by rw [hopen]; rfl, (hearlier hlt).mpr hunclosed, ?_⟩
        exact fun earlier hbefore other h =>
          hfirst earlier hbefore other ((hearlier (Nat.lt_trans hbefore hlt)).mp h)

-- What a verdict says of the tokens.
def Judges (tokens : List Token) : Except EvalError Unit → Prop
  | .ok () => (∀ place error, ¬FaultAt tokens place error) ∧
      ∀ left function, ¬UnclosedAt tokens left function
  | .error error => FirstFault tokens error

theorem FaultAt.lt_length {place : Nat} (h : FaultAt tokens place error) :
    place < tokens.length := by
  cases h with
  | bare hnamed _ =>
      by_contra hge
      simp [namedAt, List.getElem?_eq_none (Nat.le_of_not_lt hge)] at hnamed
  | count hmates _ _ => exact hmates.right_lt

-- From a place up to which nothing is wrong, the rest of the check finds out
-- what is wrong first.
theorem judges_checkFrom (h : Opened before spans)
    (hclear : ∀ place < before.length, ∀ error, ¬FaultAt (before ++ rest) place error) :
    Judges (before ++ rest) (checkFrom spans before.getLast? rest) := by
  induction rest generalizing before spans with
  | nil =>
      rw [List.append_nil] at hclear ⊢
      have hnone (place : Nat) (error : EvalError) : ¬FaultAt before place error :=
        fun hfault => hclear place hfault.lt_length error hfault
      rw [checkFrom]
      rcases unclosed_of_opened h with
        ⟨hclosed, hall⟩ | ⟨left, function, hopen, hunclosed, hfirst⟩
      · rw [hclosed]
        exact ⟨hnone, hall⟩
      · rw [hopen]
        exact .unclosed hnone hunclosed hfirst
  | cons token rest ih =>
      rcases checkFrom_cons_of_opened h token rest with
        ⟨error, hcheck, hfault⟩ | ⟨next, hcheck, hnext, hnone⟩
      · rw [hcheck]
        exact .fault hfault hclear
      · have hassoc : before ++ token :: rest = (before ++ [token]) ++ rest := by simp
        have hlast : (before ++ [token]).getLast? = some token := List.getLast?_concat
        rw [hcheck, hassoc, ← hlast]
        refine ih hnext fun place hplace error => ?_
        rw [← hassoc]
        rw [List.length_append, List.length_singleton] at hplace
        rcases Nat.lt_succ_iff_lt_or_eq.mp hplace with hlt | rfl
        · exact hclear place hlt error
        · exact hnone error

theorem judges_check (tokens : List Token) : Judges tokens (check tokens) :=
  judges_checkFrom (.nil shut_nil) fun _ hplace => absurd hplace (Nat.not_lt_zero _)

theorem FaultAt.unique {place : Nat} (h : FaultAt tokens place error)
    (hother : FaultAt tokens place other) : error = other := by
  cases h with
  | bare hnamed _ =>
      cases hother with
      | bare hnamed' _ => rw [Option.some.inj (hnamed.symm.trans hnamed')]
      | count hmates _ _ => cases hnamed.symm.trans (namedAt_of_mates hmates)
  | count hmates hcalled _ =>
      cases hother with
      | bare hnamed _ => cases hnamed.symm.trans (namedAt_of_mates hmates)
      | count hmates' hcalled' _ =>
          obtain rfl := hmates.left_unique hmates'
          rw [Option.some.inj (hcalled.symm.trans hcalled')]

-- Only one call is the first of those that are not closed.
theorem UnclosedAt.unique {left right : Nat} {called : Function}
    (h : UnclosedAt tokens left function)
    (hfirst : ∀ earlier < left, ∀ other, ¬UnclosedAt tokens earlier other)
    (hother : UnclosedAt tokens right called)
    (hotherFirst : ∀ earlier < right, ∀ other, ¬UnclosedAt tokens earlier other) :
    function = called := by
  rcases Nat.lt_trichotomy left right with hlt | rfl | hlt
  · exact absurd h (hotherFirst left hlt function)
  · exact Option.some.inj (h.called.symm.trans hother.called)
  · exact absurd hother (hfirst right hlt called)

theorem FirstFault.unique (h : FirstFault tokens error) (hother : FirstFault tokens other) :
    error = other := by
  cases h with
  | @fault place _ hfault hfirst =>
      cases hother with
      | @fault place' _ hfault' hfirst' =>
          rcases Nat.lt_trichotomy place place' with hlt | rfl | hlt
          · exact absurd hfault (hfirst' place hlt error)
          · exact hfault.unique hfault'
          · exact absurd hfault' (hfirst place' hlt other)
      | unclosed hnone _ _ => exact absurd hfault (hnone place error)
  | @unclosed left function hnone hunclosed hfirst =>
      cases hother with
      | @fault place' _ hfault' _ => exact absurd hfault' (hnone place' other)
      | unclosed _ hunclosed' hfirst' => rw [hunclosed.unique hfirst hunclosed' hfirst']

theorem obeys_iff : Obeys tokens ↔
    (∀ place error, ¬FaultAt tokens place error) ∧
      ∀ left function, ¬UnclosedAt tokens left function := by
  constructor
  · rintro ⟨hopened, hclosed, hcounted⟩
    refine ⟨fun place error hfault => ?_, fun left function hunclosed => ?_⟩
    · cases hfault with
      | bare hnamed hnext => exact hnext (hopened _ _ hnamed)
      | count hmates hcalled hwrong => exact hwrong (hcounted _ _ _ hmates hcalled)
    · obtain ⟨right, hmates⟩ := hclosed left function hunclosed.opening hunclosed.called
      exact hunclosed.unmated right hmates
  · rintro ⟨hnone, hclosed⟩
    refine ⟨fun place function hnamed => ?_, fun left function hopening hcalled => ?_,
      fun left right function hmates hcalled => ?_⟩
    · by_contra hnext
      exact hnone _ _ (.bare hnamed hnext)
    · by_contra hunmated
      exact hclosed left function ⟨hopening, hcalled, fun right h => hunmated ⟨right, h⟩⟩
    · by_contra hwrong
      exact hnone _ _ (.count hmates hcalled hwrong)

theorem not_obeys_of_firstFault (h : FirstFault tokens error) : ¬Obeys tokens := by
  intro hobeys
  obtain ⟨hnone, hclosed⟩ := obeys_iff.mp hobeys
  cases h with
  | fault hfault _ => exact hnone _ _ hfault
  | unclosed _ hunclosed _ => exact hclosed _ _ hunclosed

-- The check decides the rule, and it blames what is wrong first.
theorem check_decides_rule (tokens : List Token) :
    (check tokens = .ok () ↔ Obeys tokens) ∧
      ∀ error, check tokens = .error error ↔ FirstFault tokens error := by
  have hjudges := judges_check tokens
  cases hcheck : check tokens with
  | ok =>
      rw [hcheck] at hjudges
      have hobeys := obeys_iff.mpr hjudges
      refine ⟨iff_of_true rfl hobeys, fun error => iff_of_false (by simp) fun hfirst => ?_⟩
      exact not_obeys_of_firstFault hfirst hobeys
  | error found =>
      rw [hcheck] at hjudges
      refine ⟨iff_of_false (by simp) (not_obeys_of_firstFault hjudges), fun error => ?_⟩
      constructor
      · rintro ⟨⟩
        exact hjudges
      · intro hfirst
        rw [hjudges.unique hfirst]

end Reckoner.Token.CallRule
