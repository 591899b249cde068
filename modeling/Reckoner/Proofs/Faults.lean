import Reckoner.Proofs.Outcome
import Reckoner.Proofs.Stacks.Cases
import Reckoner.Proofs.Token.Spelled

namespace Reckoner

-- What the errors of a text carry. An unknown operator is nothing that a text
-- brings about, so nothing is said of it here.
def EvalError.Ordinary : EvalError → Prop
  | .invalidCharacter shown => ∃ c, shown = String.singleton c ∧ Text.isBlank c = false ∧ c ≠ '-'
  | .malformedFunctionCall name => ∃ function : Function, name = function.name
  | .arity name expected => ∃ function : Function, name = function.name ∧ expected = function.arity
  | .numberFormat lexeme => ∀ c ∈ lexeme.toList, Token.isNumberChar c ∧ Text.isBlank c = false
  | .domain reason => reason = "Cannot calculate square root of a negative number"
  | _ => True

def Failure.IsOrdinary : Failure → Prop
  | .rejected error => error.Ordinary
  | .broken _ => True

theorem Yields.map {α β : Type} {allowed : Failure → Prop} {condition : α → Prop} {other : β → Prop}
    {result : Except Failure α} (h : Yields allowed condition result) {f : α → β}
    (hf : ∀ value, condition value → other (f value)) : Yields allowed other (result.map f) := by
  cases result with
  | ok value => exact hf value h
  | error failure => exact h

namespace Token.CallRule

theorem ordinary_of_close {previous : Option Token} {span : Option Span} {error : EvalError}
    (h : close previous span = .error error) : error.Ordinary := by
  unfold close at h
  split at h
  · cases h
  · split at h
    · cases h
    · cases h
      exact ⟨_, rfl, rfl⟩

theorem ordinary_of_unclosed {spans : List (Option Span)} {error : EvalError}
    (h : unclosed spans = .error error) : error.Ordinary := by
  unfold unclosed at h
  split at h
  · cases h
    exact ⟨_, rfl⟩
  · cases h

theorem ordinary_of_checkFrom {spans : List (Option Span)} {previous : Option Token}
    {tokens : List Token} {error : EvalError} (h : checkFrom spans previous tokens = .error error) :
    error.Ordinary := by
  fun_induction checkFrom spans previous tokens with
  | case1 => exact ordinary_of_unclosed h
  | case2 spans previous token rest hkind hname =>
      cases h
      simp only [Function.isName, Bool.and_eq_true] at hname
      obtain ⟨function, hfunction⟩ := Option.isSome_iff_exists.mp hname.1
      exact ⟨function, (Function.name_of_named? hfunction).symm⟩
  | case7 _ _ _ _ _ _ _ hclose =>
      cases h
      exact ordinary_of_close hclose
  | case3 _ _ _ _ _ _ ih | case4 _ _ _ _ _ ih | case5 _ _ _ _ _ ih | case6 _ _ _ _ ih
  | case8 _ _ _ _ _ _ _ ih | case9 _ _ _ _ _ ih | case10 _ _ _ _ _ ih => exact ih h

end Token.CallRule

namespace Stacks

-- Every call that waits is that of a function.
def Named (waiting : List Waiting) : Prop :=
  ∀ name, .call name ∈ waiting → ∃ function : Function, name = function.name

section

variable {waiting : List Waiting} {operands : List Expr} {state : Stacks}

theorem Named.tail {top : Waiting} (hnamed : Named (top :: waiting)) : Named waiting :=
  fun name hname => hnamed name (List.mem_cons_of_mem _ hname)

theorem Named.cons {top : Waiting} (hnamed : Named waiting) (htop : ∀ name, top ≠ .call name) :
    Named (top :: waiting) := by
  intro name hname
  rcases List.mem_cons.mp hname with rfl | hname
  · exact absurd rfl (htop name)
  · exact hnamed name hname

theorem applyWhile_ordinary {due : String → Except EvalError Bool} {floor : Nat}
    (hdue : ∀ symbol error, due symbol = .error error → error.Ordinary) (hnamed : Named waiting) :
    Yields Failure.IsOrdinary (fun result => Named result.1) (applyWhile due floor waiting operands) := by
  fun_induction applyWhile due floor waiting operands with
  | case1 _ _ _ _ herror => exact hdue _ _ herror
  | case2 => exact hnamed
  | case3 _ _ _ _ _ hjoin =>
      rw [join_eq_error hjoin]
      trivial
  | case4 _ _ _ _ _ _ ih => exact ih hnamed.tail
  | case5 => exact hnamed

theorem applyAll_ordinary (hnamed : Named state.waiting) :
    Yields Failure.IsOrdinary (fun result => Named result.1) (applyAll state) :=
  applyWhile_ordinary (fun _ _ h => by cases h) hnamed

theorem finishArgument_ordinary (frame : Frame) (operands : List Expr) :
    Yields Failure.IsOrdinary (fun _ => True) (finishArgument frame operands) := by
  unfold finishArgument
  split
  · trivial
  · split
    · simp [Failure.IsOrdinary, EvalError.Ordinary]
    · trivial
    · trivial

theorem comma_ordinary (hnamed : Named state.waiting) :
    Yields Failure.IsOrdinary (fun next => Named next.waiting) (comma "," state) := by
  have happly := applyAll_ordinary hnamed
  unfold comma
  split
  · rename_i failure hfailure
    rwa [hfailure] at happly
  · rename_i waiting operands hresult
    rw [hresult] at happly
    split
    · exact (finishArgument_ordinary _ operands).map fun _ _ => happly
    · trivial
    · exact ⟨',', rfl, rfl, by decide⟩

theorem close_ordinary (hnamed : Named state.waiting) :
    Yields Failure.IsOrdinary (fun next => Named next.waiting) (close state) := by
  have happly := applyAll_ordinary hnamed
  unfold close
  split
  · rename_i failure hfailure
    rwa [hfailure] at happly
  · rename_i waiting operands hresult
    rw [hresult] at happly
    split
    · trivial
    · exact (finishArgument_ordinary _ operands).map fun _ _ => happly.tail
    · trivial
    · exact happly.tail

theorem ordinary_of_precedence {symbol : String} {error : EvalError}
    (h : precedence symbol = .error error) : error.Ordinary := by
  unfold precedence at h
  split at h
  · cases h
  · cases h
    trivial

theorem operator_ordinary (previous : Option Token) (symbol : String) (hnamed : Named state.waiting) :
    Yields Failure.IsOrdinary (fun next => Named next.waiting) (operator previous symbol state) := by
  cases hp : precedence symbol with
  | error error =>
      rw [operator_eq_error hp]
      exact ordinary_of_precedence hp
  | ok binding =>
      rw [operator_eq hp]
      refine (applyWhile_ordinary ?_ hnamed).map fun _ hresult => hresult.cons (by simp)
      intro top error herror
      cases htop : precedence top with
      | error cause =>
          simp only [bindsAtLeast, htop, Except.map, Except.error.injEq] at herror
          exact herror ▸ ordinary_of_precedence htop
      | ok other => simp [bindsAtLeast, htop, Except.map] at herror

theorem openCall_ordinary {name : String} (hnamed : Named state.waiting)
    (hname : ∀ c ∈ name.toList, Text.isLetter c ∧ Text.isBlank c = false) :
    Yields Failure.IsOrdinary (fun next => Named next.waiting) (openCall name state) := by
  cases hopen : openCall name state with
  | ok next =>
      obtain ⟨function, rfl, rfl⟩ := openCall_cases hopen
      intro other hother
      rcases List.mem_cons.mp hother with hother | hother
      · cases hother
        exact ⟨function, rfl⟩
      · exact hnamed other hother
  | error failure =>
      unfold openCall at hopen
      split at hopen
      · cases hopen
      · split at hopen
        · cases hopen
          trivial
        · rename_i c rest hlist
          cases hopen
          obtain ⟨hletter, hblank⟩ := hname c (by simp [hlist])
          refine ⟨c, rfl, hblank, ?_⟩
          rintro rfl
          exact absurd hletter (by decide)

theorem step_ordinary {token : Token} (previous : Option Token) (hspelled : token.Spelled)
    (hplain : token.Plain) (hnamed : Named state.waiting) :
    Yields Failure.IsOrdinary (fun next => Named next.waiting) (step previous token state) := by
  unfold step
  split
  · rename_i hkind
    unfold number
    split
    · exact hnamed
    · exact fun c hc => ⟨hspelled.number hkind c hc, hspelled.blank c hc⟩
  · rename_i hkind
    exact openCall_ordinary hnamed fun c hc => ⟨hspelled.name hkind c hc, hspelled.blank c hc⟩
  · refine hnamed.cons fun name => ?_
    split <;> simp
  · rename_i hkind
    rw [hplain.comma hkind]
    exact comma_ordinary hnamed
  · exact close_ordinary hnamed
  · exact operator_ordinary previous token.lexeme hnamed

-- What one token does carries over to all of them.
theorem readFrom_ordinary {previous : Option Token} {tokens : List Token}
    (hspelled : ∀ token ∈ tokens, token.Spelled) (hplain : ∀ token ∈ tokens, token.Plain)
    (hnamed : Named state.waiting) :
    Yields Failure.IsOrdinary (fun next => Named next.waiting) (readFrom previous state tokens) := by
  fun_induction readFrom previous state tokens with
  | case1 => exact hnamed
  | case2 previous state token rest failure hstep =>
      have hyields := step_ordinary previous (hspelled token (by simp)) (hplain token (by simp)) hnamed
      rwa [hstep] at hyields
  | case3 => trivial
  | case4 previous state token next hstep hkind bracket rest ih =>
      simp only [List.forall_mem_cons] at hspelled hplain
      have hyields := step_ordinary previous hspelled.1 hplain.1 hnamed
      rw [hstep] at hyields
      exact ih hspelled.2.2 hplain.2.2 hyields
  | case5 previous state token rest next hstep hkind ih =>
      simp only [List.forall_mem_cons] at hspelled hplain
      have hyields := step_ordinary previous hspelled.1 hplain.1 hnamed
      rw [hstep] at hyields
      exact ih hspelled.2 hplain.2 hyields

theorem finish_ordinary (hnamed : Named waiting) :
    Yields Failure.IsOrdinary (fun _ => True) (finish waiting operands) := by
  fun_induction finish waiting operands with
  | case1 => trivial
  | case2 => trivial
  | case3 name => exact hnamed name List.mem_cons_self
  | case4 => trivial
  | case5 _ _ _ _ hjoin =>
      rw [join_eq_error hjoin]
      trivial
  | case6 _ _ _ _ _ ih => exact ih hnamed.tail

end

end Stacks

theorem Expr.ofTokens_ordinary {tokens : List Token} (hspelled : ∀ token ∈ tokens, token.Spelled)
    (hplain : ∀ token ∈ tokens, token.Plain) :
    Yields Failure.IsOrdinary (fun _ => True) (Expr.ofTokens tokens) := by
  have hread := @Stacks.readFrom_ordinary Stacks.empty none tokens hspelled hplain
    (by simp [Stacks.Named, Stacks.empty])
  unfold Expr.ofTokens
  split
  · trivial
  · split
    · rename_i error hcheck
      exact Token.CallRule.ordinary_of_checkFrom hcheck
    · split
      · rename_i failure hfailure
        rwa [hfailure] at hread
      · rename_i state hstate
        rw [hstate] at hread
        exact Stacks.finish_ordinary hread

theorem applyOperator_ordinary (symbol : String) (left right : Binary64) :
    Yields Failure.IsOrdinary (fun _ => True) (applyOperator symbol left right) := by
  unfold applyOperator
  split
  · rename_i operator _
    cases operator with
    | add | sub | mul => trivial
    | div =>
        simp only [Operator.apply, Operator.divide]
        split
        · trivial
        · cases Binary64.Checked.div left right <;> trivial
    | rem =>
        simp only [Operator.apply, Operator.modulo]
        split
        · trivial
        · split
          · trivial
          · cases Binary64.Checked.rem left right <;> trivial
  · trivial

theorem applyFunction_ordinary (name : String) (arguments : List Binary64) :
    Yields Failure.IsOrdinary (fun _ => True) (applyFunction name arguments) := by
  unfold applyFunction
  split
  · unfold Function.apply
    split
    · trivial
    · unfold Function.squareRoot
      split
      · rfl
      · split <;> trivial
    · trivial
    · trivial
    · trivial
  · trivial

theorem Expr.confined_ordinary : Confined Failure.IsOrdinary fun _ => True where
  binary symbol _ _ _ := ⟨trivial, trivial, applyOperator_ordinary symbol⟩
  call name _ _ := ⟨fun _ _ => trivial, fun xs _ => applyFunction_ordinary name xs⟩

-- What a text is rejected for is ordinary, and it is never an unknown operator.
theorem ordinary_of_valueOf {text : String} {error : EvalError}
    (h : valueOf text = .error (.rejected error)) :
    error.Ordinary ∧ error.kind ≠ .unknownOperator := by
  have hyields := valueOf_yields text
  rw [h] at hyields
  refine ⟨?_, hyields⟩
  unfold valueOf at h
  split at h
  · rename_i cause hlex
    cases h
    obtain ⟨c, rfl, hblank, htoken⟩ := Token.exists_of_ofText_error hlex
    refine ⟨c, rfl, hblank, ?_⟩
    rintro rfl
    exact absurd htoken (by decide)
  · rename_i tokens hlex
    have hparse := Expr.ofTokens_ordinary (Token.spelled_of_ofText hlex)
      fun token ht => (Token.lexed_of_ofText hlex token ht).toPlain
    split at h
    · rename_i failure hfailure
      cases h
      rwa [hfailure] at hparse
    · rename_i expr _
      have hvalue := Expr.confined_ordinary.value expr trivial
      rwa [← expr.evaluate_eq_value, h] at hvalue

-- A text has a value, or there is something ordinary to say against it.
theorem valueOf_cases (text : String) :
    (∃ value, valueOf text = .ok value) ∨
      ∃ error : EvalError, error.Ordinary ∧ error.kind ≠ .unknownOperator ∧
        valueOf text = .error (.rejected error) := by
  have hyields := valueOf_yields text
  cases hvalue : valueOf text with
  | ok value => exact .inl ⟨value, rfl⟩
  | error failure =>
      rw [hvalue] at hyields
      cases failure with
      | broken breach => cases hyields
      | rejected error =>
          obtain ⟨hordinary, hkind⟩ := ordinary_of_valueOf hvalue
          exact .inr ⟨error, hordinary, hkind, rfl⟩

-- Blanks and the characters of tokens are all that a text with a value has.
theorem isTokenChar_of_valueOf {text : String} {value : Binary64}
    (hvalue : valueOf text = .ok value) :
    ∀ c ∈ text.toList, Text.isBlank c ∨ Token.isTokenChar c := by
  unfold valueOf at hvalue
  split at hvalue
  · cases hvalue
  · rename_i tokens hlex
    exact Token.isTokenChar_of_ofText hlex

end Reckoner
