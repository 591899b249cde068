import Reckoner.Expr.Postorder
import Reckoner.Proofs.Expr.Evaluate

namespace Reckoner

namespace Expr

-- The node at the top of an expression.
def top : Expr → Node
  | .number value => .number value
  | .binary symbol _ _ => .binary symbol
  | .call name arguments => .call name arguments.length

mutual

-- The parts of an expression, those of its operands before the whole.
def parts : Expr → List Expr
  | .number value => [.number value]
  | .binary symbol left right => left.parts ++ right.parts ++ [.binary symbol left right]
  | .call name arguments => allParts arguments ++ [.call name arguments]

def allParts : List Expr → List Expr
  | [] => []
  | expr :: rest => expr.parts ++ allParts rest

end

mutual

theorem postorderBefore_eq (after : List Node) (expr : Expr) :
    postorderBefore after expr = expr.parts.map top ++ after :=
  match expr with
  | .number value => rfl
  | .binary symbol left right => by
      rw [postorderBefore, postorderBefore_eq _ left, postorderBefore_eq _ right]
      simp [parts, top]
  | .call name arguments => by
      rw [postorderBefore, postordersBefore_eq _ arguments]
      simp [parts, top]

theorem postordersBefore_eq (after : List Node) (exprs : List Expr) :
    postordersBefore after exprs = (allParts exprs).map top ++ after :=
  match exprs with
  | [] => rfl
  | expr :: rest => by
      rw [postordersBefore, postorderBefore_eq _ expr, postordersBefore_eq _ rest]
      simp [allParts]

end

theorem postorder_eq (expr : Expr) : expr.postorder = expr.parts.map top := by
  rw [postorder, postorderBefore_eq, List.append_nil]

def HasValue (expr : Expr) : Prop := ∃ value, expr.value = .ok value

section

variable {symbol name : String} {expr left right : Expr} {exprs : List Expr} {value : Binary64}
  {found : List Binary64} {failure : Failure}

theorem value_binary_eq_ok_iff :
    (binary symbol left right).value = .ok value ↔
      ∃ x y, left.value = .ok x ∧ right.value = .ok y ∧ applyOperator symbol x y = .ok value := by
  rw [Expr.value]
  cases left.value with
  | error failure => simp
  | ok x => cases right.value <;> simp

theorem value_binary_eq_error_iff :
    (binary symbol left right).value = .error failure ↔
      left.value = .error failure ∨
        (∃ x, left.value = .ok x ∧ right.value = .error failure) ∨
        ∃ x y, left.value = .ok x ∧ right.value = .ok y ∧
          applyOperator symbol x y = .error failure := by
  rw [Expr.value]
  cases left.value with
  | error failure => simp
  | ok x => cases right.value <;> simp

theorem value_call_eq_ok_iff :
    (call name exprs).value = .ok value ↔
      ∃ xs, values exprs = .ok xs ∧ applyFunction name xs = .ok value := by
  rw [Expr.value]
  cases values exprs <;> simp

theorem value_call_eq_error_iff :
    (call name exprs).value = .error failure ↔
      values exprs = .error failure ∨
        ∃ xs, values exprs = .ok xs ∧ applyFunction name xs = .error failure := by
  rw [Expr.value]
  cases values exprs <;> simp

theorem values_cons_eq_ok_iff :
    values (expr :: exprs) = .ok found ↔
      ∃ x xs, expr.value = .ok x ∧ values exprs = .ok xs ∧ found = x :: xs := by
  rw [values]
  cases expr.value with
  | error failure => simp
  | ok x => cases values exprs <;> simp [Except.map, eq_comm]

theorem values_cons_eq_error_iff :
    values (expr :: exprs) = .error failure ↔
      expr.value = .error failure ∨
        ∃ x, expr.value = .ok x ∧ values exprs = .error failure := by
  rw [values]
  cases expr.value with
  | error failure => simp
  | ok x => cases values exprs <;> simp [Except.map]

end

end Expr

-- What an evaluation has still to do, and the values that it has so far.
structure Work where
  tasks : List Task
  values : List Binary64

namespace Task

-- The node that a task applies. To visit an operator or a call only puts it off.
def node? : Task → Option Expr.Node
  | .visit (.number value) => some (.number value)
  | .visit _ => none
  | .combine symbol => some (.binary symbol)
  | .call name count => some (.call name count)

-- One task done, and the work after it.
def turn : Task → Work → Except Failure Work
  | .visit (.number value), ⟨tasks, values⟩ => .ok ⟨tasks, value :: values⟩
  | .visit (.binary symbol left right), ⟨tasks, values⟩ =>
      .ok ⟨.visit left :: .visit right :: .combine symbol :: tasks, values⟩
  | .visit (.call name arguments), ⟨tasks, values⟩ =>
      .ok ⟨visits arguments (.call name arguments.length :: tasks), values⟩
  | .combine symbol, ⟨tasks, right :: left :: values⟩ =>
      (applyOperator symbol left right).map fun value => ⟨tasks, value :: values⟩
  | .combine _, _ => .error (.broken .operandMissing)
  | .call name count, ⟨tasks, values⟩ =>
      if values.length < count then .error (.broken .operandMissing)
      else (applyFunction name (values.take count).reverse).map fun value =>
        ⟨tasks, value :: values.drop count⟩

-- The run of an evaluation is one turn after the other.
theorem run_cons (task : Task) (tasks : List Task) (values : List Binary64) :
    run (task :: tasks) values =
      (task.turn ⟨tasks, values⟩).bind fun next => run next.tasks next.values := by
  cases task with
  | visit expr => cases expr <;> (rw [run]; rfl)
  | combine symbol =>
      match values with
      | [] | [_] => simp [run, turn, Except.bind]
      | right :: left :: values =>
          rw [run, turn]
          cases applyOperator symbol left right <;> rfl
  | call name count =>
      rw [run, turn]
      by_cases hlength : values.length < count
      · simp [hlength, Except.bind]
      · simp only [hlength, if_false]
        cases applyFunction name (values.take count).reverse <;> rfl

end Task

-- Turns that lead from some work to other work, and the nodes that they apply.
inductive Turns : Work → List Expr.Node → Work → Prop
  | refl (work : Work) : Turns work [] work
  | turn {task : Task} {tasks : List Task} {values : List Binary64} {next last : Work}
      {nodes : List Expr.Node} (hturn : task.turn ⟨tasks, values⟩ = .ok next)
      (hturns : Turns next nodes last) :
      Turns ⟨task :: tasks, values⟩ (task.node?.toList ++ nodes) last

-- Turns that come to a node which cannot be applied.
def Stops (start : Work) (nodes : List Expr.Node) (node : Expr.Node) (failure : Failure) : Prop :=
  ∃ task tasks values, Turns start nodes ⟨task :: tasks, values⟩ ∧ task.node? = some node ∧
    task.turn ⟨tasks, values⟩ = .error failure

section

variable {start middle last : Work} {nodes more : List Expr.Node}

theorem Turns.trans (hfirst : Turns start nodes middle) (hmore : Turns middle more last) :
    Turns start (nodes ++ more) last := by
  induction hfirst with
  | refl => exact hmore
  | turn hturn _ ih =>
      rw [List.append_assoc]
      exact .turn hturn (ih hmore)

end

-- Every part has a value, and the turns apply them all.
structure Applies (start : Work) (parts : List Expr) (last : Work) : Prop where
  values : ∀ part ∈ parts, part.HasValue
  turns : Turns start (parts.map Expr.top) last

-- The turns stop at the first part without a value, for its reason. Nothing
-- behind it is applied.
structure StopsAt (start : Work) (failure : Failure) (before : List Expr) (part : Expr) :
    Prop where
  values : ∀ other ∈ before, other.HasValue
  value : part.value = .error failure
  stops : Stops start (before.map Expr.top) part.top failure

def Fails (start : Work) (parts : List Expr) (failure : Failure) : Prop :=
  ∃ before part behind, parts = before ++ part :: behind ∧ StopsAt start failure before part

section

variable {start middle last : Work} {first second : List Expr} {failure : Failure}

theorem applies_nil (work : Work) : Applies work [] work := ⟨by simp, .refl work⟩

theorem Applies.trans (hfirst : Applies start first middle) (hsecond : Applies middle second last) :
    Applies start (first ++ second) last where
  values := List.forall_mem_append.mpr ⟨hfirst.values, hsecond.values⟩
  turns := by
    rw [List.map_append]
    exact hfirst.turns.trans hsecond.turns

theorem Applies.fails (hfirst : Applies start first middle) (hsecond : Fails middle second failure) :
    Fails start (first ++ second) failure := by
  obtain ⟨before, part, behind, rfl, hvalues, hvalue, task, tasks, values, hturns, hstops⟩ := hsecond
  refine ⟨first ++ before, part, behind, by rw [List.append_assoc], ?_, hvalue, task, tasks, values,
    ?_, hstops⟩
  · exact List.forall_mem_append.mpr ⟨hfirst.values, hvalues⟩
  · rw [List.map_append]
    exact hfirst.turns.trans hturns

theorem Fails.append (hfails : Fails start first failure) (more : List Expr) :
    Fails start (first ++ more) failure := by
  obtain ⟨before, part, behind, rfl, hstops⟩ := hfails
  exact ⟨before, part, behind ++ more, by simp, hstops⟩

variable {task : Task} {tasks : List Task} {values : List Binary64} {expr : Expr}

-- To put a node off is a turn that applies nothing.
theorem applies_of_turn (hnode : task.node? = none) (hturn : task.turn ⟨tasks, values⟩ = .ok last) :
    Applies ⟨task :: tasks, values⟩ [] last := by
  have hturns := Turns.turn hturn (.refl last)
  rw [hnode] at hturns
  exact ⟨by simp, hturns⟩

-- A node whose operands are there is applied in one turn, or the turn fails.
theorem applies_single {value : Binary64} (hnode : task.node? = some expr.top)
    (hvalue : expr.value = .ok value) (hturn : task.turn ⟨tasks, values⟩ = .ok last) :
    Applies ⟨task :: tasks, values⟩ [expr] last := by
  have hturns := Turns.turn hturn (.refl last)
  rw [hnode] at hturns
  exact ⟨by simpa using ⟨value, hvalue⟩, hturns⟩

theorem fails_single (hnode : task.node? = some expr.top) (hvalue : expr.value = .error failure)
    (hturn : task.turn ⟨tasks, values⟩ = .error failure) :
    Fails ⟨task :: tasks, values⟩ [expr] failure :=
  ⟨[], expr, [], rfl, by simp, hvalue, task, tasks, values, .refl _, hnode, hturn⟩

end

namespace Task

section

variable (tasks : List Task) (values : List Binary64)

theorem turn_combine (symbol : String) (left right : Binary64) :
    (combine symbol).turn ⟨tasks, right :: left :: values⟩ =
      (applyOperator symbol left right).map fun value => ⟨tasks, value :: values⟩ := rfl

theorem turn_call (name : String) (arguments : List Binary64) :
    (call name arguments.length).turn ⟨tasks, arguments.reverse ++ values⟩ =
      (applyFunction name arguments).map fun value => ⟨tasks, value :: values⟩ := by
  obtain ⟨hlength, htake, hdrop⟩ := operands_of_call values arguments
  rw [turn, if_neg hlength, htake, hdrop]

end

-- An operator and a call are put off behind their operands.
theorem applies_binary (symbol : String) (left right : Expr) (tasks : List Task)
    (values : List Binary64) :
    Applies ⟨.visit (.binary symbol left right) :: tasks, values⟩ []
      ⟨.visit left :: .visit right :: .combine symbol :: tasks, values⟩ :=
  applies_of_turn rfl rfl

theorem applies_call (name : String) (arguments : List Expr) (tasks : List Task)
    (values : List Binary64) :
    Applies ⟨.visit (.call name arguments) :: tasks, values⟩ []
      ⟨visits arguments (.call name arguments.length :: tasks), values⟩ :=
  applies_of_turn rfl rfl

mutual

-- An expression with a value has it on top in the end, and all its nodes have
-- been applied.
theorem applies_visit (expr : Expr) (tasks : List Task) (values : List Binary64) {value : Binary64}
    (hvalue : expr.value = .ok value) :
    Applies ⟨.visit expr :: tasks, values⟩ expr.parts ⟨tasks, value :: values⟩ :=
  match expr with
  | .number _ => by
      cases hvalue
      exact applies_single rfl rfl rfl
  | .binary symbol left right => by
      obtain ⟨x, y, hleft, hright, happly⟩ := Expr.value_binary_eq_ok_iff.mp hvalue
      have hturn : (combine symbol).turn ⟨tasks, y :: x :: values⟩ = .ok ⟨tasks, value :: values⟩ := by
        rw [turn_combine, happly]
        rfl
      have hoperands := (applies_visit left _ values hleft).trans
        (applies_visit right (.combine symbol :: tasks) _ hright)
      have hwhole := hoperands.trans (applies_single rfl hvalue hturn)
      exact (applies_binary symbol left right tasks values).trans hwhole
  | .call name arguments => by
      obtain ⟨xs, hvalues, happly⟩ := Expr.value_call_eq_ok_iff.mp hvalue
      have hturn : (call name arguments.length).turn ⟨tasks, xs.reverse ++ values⟩ =
          .ok ⟨tasks, value :: values⟩ := by
        rw [← Expr.length_of_values hvalues, turn_call, happly]
        rfl
      have hoperands := applies_visits arguments (.call name arguments.length :: tasks) values hvalues
      have hwhole := hoperands.trans (applies_single rfl hvalue hturn)
      exact (applies_call name arguments tasks values).trans hwhole

theorem applies_visits (exprs : List Expr) (tasks : List Task) (values : List Binary64)
    {found : List Binary64} (hvalues : Expr.values exprs = .ok found) :
    Applies ⟨visits exprs tasks, values⟩ (Expr.allParts exprs) ⟨tasks, found.reverse ++ values⟩ :=
  match exprs with
  | [] => by
      cases hvalues
      exact applies_nil _
  | expr :: rest => by
      obtain ⟨x, xs, hvalue, hrest, rfl⟩ := Expr.values_cons_eq_ok_iff.mp hvalues
      have happlies := (applies_visit expr (visits rest tasks) values hvalue).trans
        (applies_visits rest tasks (x :: values) hrest)
      rw [List.reverse_cons, List.append_assoc]
      exact happlies

end

mutual

-- An expression without a value is left at the first of its parts that has none.
theorem fails_visit (expr : Expr) (tasks : List Task) (values : List Binary64) {failure : Failure}
    (hvalue : expr.value = .error failure) :
    Fails ⟨.visit expr :: tasks, values⟩ expr.parts failure :=
  match expr with
  | .number _ => by cases hvalue
  | .binary symbol left right => by
      have hoff := applies_binary symbol left right tasks values
      rcases Expr.value_binary_eq_error_iff.mp hvalue with
        hleft | ⟨x, hleft, hright⟩ | ⟨x, y, hleft, hright, happly⟩
      · exact hoff.fails (((fails_visit left _ values hleft).append _).append _)
      · have hfails := (applies_visit left _ values hleft).fails
          (fails_visit right (.combine symbol :: tasks) _ hright)
        exact hoff.fails (hfails.append _)
      · have hturn : (combine symbol).turn ⟨tasks, y :: x :: values⟩ = .error failure := by
          rw [turn_combine, happly]
          rfl
        have hoperands := (applies_visit left _ values hleft).trans
          (applies_visit right (.combine symbol :: tasks) _ hright)
        exact hoff.fails (hoperands.fails (fails_single rfl hvalue hturn))
  | .call name arguments => by
      have hoff := applies_call name arguments tasks values
      rcases Expr.value_call_eq_error_iff.mp hvalue with hvalues | ⟨xs, hvalues, happly⟩
      · exact hoff.fails ((fails_visits arguments _ values hvalues).append _)
      · have hturn : (call name arguments.length).turn ⟨tasks, xs.reverse ++ values⟩ =
            .error failure := by
          rw [← Expr.length_of_values hvalues, turn_call, happly]
          rfl
        have hoperands :=
          applies_visits arguments (.call name arguments.length :: tasks) values hvalues
        exact hoff.fails (hoperands.fails (fails_single rfl hvalue hturn))

theorem fails_visits (exprs : List Expr) (tasks : List Task) (values : List Binary64)
    {failure : Failure} (hvalues : Expr.values exprs = .error failure) :
    Fails ⟨visits exprs tasks, values⟩ (Expr.allParts exprs) failure :=
  match exprs with
  | [] => by cases hvalues
  | expr :: rest => by
      rcases Expr.values_cons_eq_error_iff.mp hvalues with hvalue | ⟨x, hvalue, hrest⟩
      · exact (fails_visit expr _ values hvalue).append _
      · exact (applies_visit expr _ values hvalue).fails (fails_visits rest tasks _ hrest)

end

end Task

def Failure.IsRejection (failure : Failure) : Prop := ∃ error, failure = .rejected error

theorem Failure.IsFault.isRejection (failure : Failure) (hfault : failure.IsFault) :
    failure.IsRejection := by
  cases failure with
  | rejected error => exact ⟨error, rfl⟩
  | broken breach => cases hfault

-- A symbol that no operator has is rejected as one.
theorem applyOperator_rejects (symbol : String) (left right : Binary64) :
    Yields Failure.IsRejection (fun _ => True) (applyOperator symbol left right) := by
  by_cases hsymbol : (Operator.ofSymbol? symbol).isSome
  · exact (applyOperator_yields hsymbol left right).mono Failure.IsFault.isRejection
  · have hnone : Operator.ofSymbol? symbol = none := by simpa using hsymbol
    simp [applyOperator, hnone, Failure.IsRejection]

namespace Expr

theorem confined_wellCalled : Confined Failure.IsRejection WellCalled where
  binary symbol left right hcalls := by
    obtain ⟨hleft, hright⟩ := hcalls
    exact ⟨hleft, hright, applyOperator_rejects symbol⟩
  call name arguments hcalls := by
    obtain ⟨⟨function, rfl, harity⟩, harguments⟩ := hcalls
    refine ⟨(Stacks.allWellCalled_iff arguments).mp harguments, fun xs hlength => ?_⟩
    exact (applyFunction_yields (hlength.trans harity)).mono Failure.IsFault.isRejection

-- Whatever its operators, an expression whose functions have their arguments is
-- evaluated to the value that follows from those of its operands. The run goes
-- turn by turn: it applies all nodes in post-order, or all up to the first that
-- fails and none behind it. No turn finds a value missing.
theorem evaluate_turn_by_turn (expr : Expr) (hcalls : expr.WellCalled) :
    expr.evaluate = expr.value ∧ expr.postorder = expr.parts.map top ∧
      (∀ task tasks values, Task.run (task :: tasks) values =
        (task.turn ⟨tasks, values⟩).bind fun next => Task.run next.tasks next.values) ∧
      ((∃ value, expr.value = .ok value ∧
          Applies ⟨[.visit expr], []⟩ expr.parts ⟨[], [value]⟩) ∨
        ∃ error, expr.value = .error (.rejected error) ∧
          Fails ⟨[.visit expr], []⟩ expr.parts (.rejected error)) := by
  refine ⟨expr.evaluate_eq_value, expr.postorder_eq, Task.run_cons, ?_⟩
  have hyields := confined_wellCalled.value expr hcalls
  cases hvalue : expr.value with
  | ok value => exact .inl ⟨value, rfl, Task.applies_visit expr [] [] hvalue⟩
  | error failure =>
      rw [hvalue] at hyields
      obtain ⟨error, rfl⟩ := hyields
      exact .inr ⟨error, rfl, Task.fails_visit expr [] [] hvalue⟩

-- Three nodes fail here, one of them with a symbol that no operator has. The
-- division is the first of them in post-order.
theorem evaluate_turn_by_turn_quotient :
    let quotient : Expr := .binary "/" (.number .one) (.number .zero)
    let root : Expr := .call "sqrt" [.binary "-" (.number .zero) (.number .one)]
    let expr : Expr := .binary "^" quotient root
    expr.WellCalled ∧ expr.evaluate = .error (.rejected .divisionByZero) ∧
      Fails ⟨[.visit expr], []⟩ expr.parts (.rejected .divisionByZero) := by
  intro quotient root expr
  have hcalls : expr.WellCalled :=
    ⟨⟨trivial, trivial⟩, ⟨.sqrt, rfl, rfl⟩, ⟨trivial, trivial⟩, trivial⟩
  obtain ⟨hevaluate, -, -, hrun⟩ := evaluate_turn_by_turn expr hcalls
  have hvalue : expr.value = .error (.rejected .divisionByZero) := by decide +kernel
  rw [hvalue] at hevaluate
  refine ⟨hcalls, hevaluate, ?_⟩
  rcases hrun with ⟨value, hother, -⟩ | ⟨error, hother, hfails⟩
  · rw [hvalue] at hother
    cases hother
  · rw [hvalue] at hother
    cases hother
    exact hfails

end Expr

end Reckoner
