import Mathlib.Data.List.Basic
import Reckoner.Expr.Evaluate
import Reckoner.Proofs.Stacks.Agreement

namespace Reckoner

theorem Expr.length_of_values {exprs : List Expr} {values : List Binary64}
    (h : Expr.values exprs = .ok values) : values.length = exprs.length := by
  induction exprs generalizing values with
  | nil =>
      cases h
      rfl
  | cons expr exprs ih =>
      simp only [Expr.values] at h
      split at h
      · cases h
      · obtain ⟨rest, hrest, rfl⟩ := map_eq_ok_iff.mp h
        simp [ih hrest]

namespace Task

variable (tasks : List Task) (newest : List Binary64)

-- The last operands of a call are its arguments, and they lie in reverse.
theorem operands_of_call (arguments : List Binary64) :
    ¬(arguments.reverse ++ newest).length < arguments.length ∧
      ((arguments.reverse ++ newest).take arguments.length).reverse = arguments ∧
      (arguments.reverse ++ newest).drop arguments.length = newest := by
  have htake : (arguments.reverse ++ newest).take arguments.length = arguments.reverse :=
    List.take_left' (by simp)
  refine ⟨?_, by rw [htake, List.reverse_reverse], List.drop_left' (by simp)⟩
  simp only [List.length_append, List.length_reverse]
  omega

theorem run_call (name : String) (arguments : List Binary64) :
    run (.call name arguments.length :: tasks) (arguments.reverse ++ newest) =
      (applyFunction name arguments).bind fun value => run tasks (value :: newest) := by
  obtain ⟨hlength, htake, hdrop⟩ := operands_of_call newest arguments
  rw [run, if_neg hlength, htake, hdrop]
  cases applyFunction name arguments <;> rfl

theorem run_combine (symbol : String) (left right : Binary64) :
    run (.combine symbol :: tasks) (right :: left :: newest) =
      (applyOperator symbol left right).bind fun value => run tasks (value :: newest) := by
  rw [run]
  cases applyOperator symbol left right <;> rfl

mutual

-- Visiting an expression comes down to having its value on top.
theorem run_visit (expr : Expr) (tasks : List Task) (newest : List Binary64) :
    run (.visit expr :: tasks) newest =
      expr.value.bind fun value => run tasks (value :: newest) :=
  match expr with
  | .number value => by rw [run, Expr.value, Except.bind]
  | .binary symbol left right => by
      rw [run, run_visit left, Expr.value]
      cases left.value with
      | error failure => rfl
      | ok x =>
          simp only [Except.bind]
          rw [run_visit right]
          cases right.value with
          | error failure => rfl
          | ok y => exact run_combine tasks newest symbol x y
  | .call name arguments => by
      rw [run, run_visits arguments, Expr.value]
      cases hvalues : Expr.values arguments with
      | error failure => rfl
      | ok xs =>
          simp only [Except.bind]
          rw [← Expr.length_of_values hvalues]
          exact run_call tasks newest name xs

theorem run_visits (exprs : List Expr) (tasks : List Task) (newest : List Binary64) :
    run (visits exprs tasks) newest =
      (Expr.values exprs).bind fun values => run tasks (values.reverse ++ newest) :=
  match exprs with
  | [] => rfl
  | expr :: rest => by
      rw [visits, run_visit expr, Expr.values]
      cases expr.value with
      | error failure => rfl
      | ok x =>
          simp only [Except.bind]
          rw [run_visits rest]
          cases Expr.values rest with
          | error failure => rfl
          | ok xs => simp [Except.map, Except.bind]

end

end Task

-- The task list computes the value that the tree has, and fails where it fails.
theorem Expr.evaluate_eq_value (expr : Expr) : expr.evaluate = expr.value := by
  rw [evaluate, Task.run_visit]
  cases expr.value with
  | error failure => rfl
  | ok value => simp [Except.bind, Task.run]

-- A divisor that is not zero, a dividend that is finite and a radicand that is
-- not negative give the checked arithmetic nothing to signal.
theorem divide_yields (left right : Binary64) :
    Yields Failure.IsFault (fun _ => True) (Operator.divide left right) := by
  unfold Operator.divide
  split
  · simp [Failure.IsFault, EvalError.kind]
  · rename_i hzero
    simp [Binary64.Checked.div, hzero, Operator.signalled]

theorem modulo_yields (left right : Binary64) :
    Yields Failure.IsFault (fun _ => True) (Operator.modulo left right) := by
  unfold Operator.modulo
  split
  · simp [Failure.IsFault, EvalError.kind]
  · rename_i hzero
    split
    · trivial
    · rename_i hfinite
      have hfinite : left.isFinite = true := by simpa using hfinite
      simp [Binary64.Checked.rem, hzero, hfinite, Operator.signalled]

theorem squareRoot_yields (x : Binary64) :
    Yields Failure.IsFault (fun _ => True) (Function.squareRoot x) := by
  unfold Function.squareRoot
  split
  · simp [Failure.IsFault, EvalError.kind]
  · rename_i hnegative
    simp [Binary64.Checked.sqrt, hnegative]

theorem applyOperator_yields {symbol : String} (h : (Operator.ofSymbol? symbol).isSome)
    (left right : Binary64) :
    Yields Failure.IsFault (fun _ => True) (applyOperator symbol left right) := by
  obtain ⟨operator, ho⟩ := Option.isSome_iff_exists.mp h
  simp only [applyOperator, ho]
  cases operator with
  | add | sub | mul => trivial
  | div => exact divide_yields left right
  | rem => exact modulo_yields left right

theorem applyFunction_yields {function : Function} {arguments : List Binary64}
    (h : arguments.length = function.arity) :
    Yields Failure.IsFault (fun _ => True) (applyFunction function.name arguments) := by
  simp only [applyFunction, Function.named?_name]
  cases function with
  | power =>
      obtain ⟨base, exponent, rfl⟩ := List.length_eq_two.mp h
      simp [Function.apply]
  | sqrt =>
      obtain ⟨x, rfl⟩ := List.length_eq_one_iff.mp h
      exact squareRoot_yields x
  | abs | round =>
      obtain ⟨x, rfl⟩ := List.length_eq_one_iff.mp h
      simp [Function.apply]

namespace Expr

theorem Sound.of_binary {symbol : String} {left right : Expr}
    (h : (binary symbol left right).Sound) :
    (Operator.ofSymbol? symbol).isSome ∧ left.Sound ∧ right.Sound := by
  obtain ⟨⟨hleft, hright⟩, hsymbols⟩ := h
  refine ⟨hsymbols symbol (by simp [Expr.symbols]), ⟨hleft, ?_⟩, ⟨hright, ?_⟩⟩
  · exact fun other ho => hsymbols other (by simp [Expr.symbols, ho])
  · exact fun other ho => hsymbols other (by simp [Expr.symbols, ho])

theorem Sound.of_call {name : String} {arguments : List Expr} (h : (call name arguments).Sound) :
    (∃ function : Function, name = function.name ∧ arguments.length = function.arity) ∧
      ∀ expr ∈ arguments, expr.Sound := by
  obtain ⟨⟨hfunction, hcalls⟩, hsymbols⟩ := h
  refine ⟨hfunction, fun expr he => ⟨(Stacks.allWellCalled_iff arguments).mp hcalls expr he, ?_⟩⟩
  exact fun other ho =>
    hsymbols other ((Stacks.mem_allSymbols_iff other arguments).mpr ⟨expr, he, ho⟩)

-- A property that the parts of a tree inherit, and with which its operators and
-- functions fail in allowed ways only.
structure Confined (allowed : Failure → Prop) (good : Expr → Prop) : Prop where
  binary : ∀ symbol left right, good (.binary symbol left right) →
    good left ∧ good right ∧ ∀ x y, Yields allowed (fun _ => True) (applyOperator symbol x y)
  call : ∀ name arguments, good (.call name arguments) →
    (∀ expr ∈ arguments, good expr) ∧
      ∀ xs, xs.length = arguments.length → Yields allowed (fun _ => True) (applyFunction name xs)

section

variable {allowed : Failure → Prop} {good : Expr → Prop}

mutual

-- A tree fails in no other way than its operators and functions do.
theorem Confined.value (hconfined : Confined allowed good) (expr : Expr) (hgood : good expr) :
    Yields allowed (fun _ => True) expr.value :=
  match expr with
  | .number _ => trivial
  | .binary symbol left right => by
      obtain ⟨hleft, hright, happly⟩ := hconfined.binary symbol left right hgood
      have hx := hconfined.value left hleft
      have hy := hconfined.value right hright
      rw [Expr.value]
      cases hl : left.value with
      | error failure => rwa [hl] at hx
      | ok x =>
          cases hr : right.value with
          | error failure => rwa [hr] at hy
          | ok y => exact happly x y
  | .call name arguments => by
      obtain ⟨harguments, happly⟩ := hconfined.call name arguments hgood
      have hxs := hconfined.values arguments harguments
      rw [Expr.value]
      cases hvalues : Expr.values arguments with
      | error failure => rwa [hvalues] at hxs
      | ok xs => exact happly xs (length_of_values hvalues)

theorem Confined.values (hconfined : Confined allowed good) (exprs : List Expr)
    (hgood : ∀ expr ∈ exprs, good expr) : Yields allowed (fun _ => True) (Expr.values exprs) :=
  match exprs with
  | [] => trivial
  | expr :: rest => by
      have hx := hconfined.value expr (hgood expr (by simp))
      have hxs := hconfined.values rest fun other ho => hgood other (by simp [ho])
      rw [Expr.values]
      cases hv : expr.value with
      | error failure => rwa [hv] at hx
      | ok x =>
          cases hvs : Expr.values rest with
          | error failure => rwa [hvs] at hxs
          | ok xs => trivial

end

end

theorem confined_sound : Confined Failure.IsFault Sound where
  binary symbol left right hsound := by
    obtain ⟨hsymbol, hleft, hright⟩ := hsound.of_binary
    exact ⟨hleft, hright, applyOperator_yields hsymbol⟩
  call name arguments hsound := by
    obtain ⟨⟨function, rfl, harity⟩, harguments⟩ := hsound.of_call
    exact ⟨harguments, fun xs hlength => applyFunction_yields (hlength.trans harity)⟩

theorem value_yields (expr : Expr) (h : expr.Sound) :
    Yields Failure.IsFault (fun _ => True) expr.value := confined_sound.value expr h

end Expr

end Reckoner
