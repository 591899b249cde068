import Reckoner.Expr.Leaves

namespace Reckoner.Expr

theorem allLeaves_append (front back : List Expr) :
    allLeaves (front ++ back) = allLeaves front ++ allLeaves back := by
  induction front with
  | nil => rfl
  | cons expr front ih => simp [allLeaves, ih]

theorem allLeaves_singleton (expr : Expr) : allLeaves [expr] = expr.leaves := by
  simp [allLeaves]

section

variable (scion : Expr)

mutual

theorem graft_of_le (expr : Expr) (place : Nat) (h : expr.leaves.length ≤ place) :
    graft scion place expr = expr :=
  match expr with
  | .number value => by
      simp only [leaves, List.length_singleton] at h
      rw [graft, if_neg (by omega)]
  | .binary symbol left right => by
      simp only [leaves, List.length_append] at h
      rw [graft, if_neg (by omega), graft_of_le right _ (by omega)]
  | .call name arguments => by
      rw [graft, graftInto_of_le arguments place h]

theorem graftInto_of_le (exprs : List Expr) (place : Nat) (h : (allLeaves exprs).length ≤ place) :
    graftInto scion place exprs = exprs :=
  match exprs with
  | [] => rfl
  | expr :: rest => by
      simp only [allLeaves, List.length_append] at h
      rw [graftInto, if_neg (by omega), graftInto_of_le rest _ (by omega)]

end

theorem graftInto_singleton (place : Nat) (expr : Expr) :
    graftInto scion place [expr] = [graft scion place expr] := by
  rw [graftInto]
  split
  · rfl
  · rw [graft_of_le scion expr place (by omega)]
    rfl

theorem length_graftInto (place : Nat) (exprs : List Expr) :
    (graftInto scion place exprs).length = exprs.length := by
  induction exprs generalizing place with
  | nil => rfl
  | cons expr rest ih =>
      rw [graftInto]
      split
      · rfl
      · rw [List.length_cons, List.length_cons, ih]

theorem graftInto_append (place : Nat) (front back : List Expr) :
    graftInto scion place (front ++ back) =
      if place < (allLeaves front).length then graftInto scion place front ++ back
      else front ++ graftInto scion (place - (allLeaves front).length) back := by
  induction front generalizing place with
  | nil => simp [allLeaves]
  | cons expr front ih =>
      rw [List.cons_append, graftInto, graftInto, allLeaves, List.length_append]
      by_cases hhere : place < expr.leaves.length
      · rw [if_pos hhere, if_pos hhere, if_pos (by omega)]
        rfl
      · rw [if_neg hhere, if_neg hhere, ih]
        by_cases hfront : place - expr.leaves.length < (allLeaves front).length
        · rw [if_pos hfront, if_pos (by omega)]
          rfl
        · rw [if_neg hfront, if_neg (by omega), Nat.sub_sub]
          rfl

-- The newest expression of a stack is its first, and the last one to count.
def graftStack (place : Nat) (operands : List Expr) : List Expr :=
  (graftInto scion place operands.reverse).reverse

theorem length_graftStack (place : Nat) (operands : List Expr) :
    (graftStack scion place operands).length = operands.length := by
  simp [graftStack, length_graftInto]

theorem graftStack_append (place : Nat) (newer older : List Expr) :
    graftStack scion place (newer ++ older) =
      if place < (allLeaves older.reverse).length then newer ++ graftStack scion place older
      else graftStack scion (place - (allLeaves older.reverse).length) newer ++ older := by
  simp only [graftStack, List.reverse_append, graftInto_append]
  split <;> simp

theorem graftStack_singleton (place : Nat) (expr : Expr) :
    graftStack scion place [expr] = [graft scion place expr] := by
  simp [graftStack, graftInto_singleton]

theorem graftStack_cons_of_lt {place : Nat} {operands : List Expr}
    (h : place < (allLeaves operands.reverse).length) (expr : Expr) :
    graftStack scion place (expr :: operands) = expr :: graftStack scion place operands := by
  have happend := graftStack_append scion place [expr] operands
  rwa [if_pos h] at happend

theorem graftStack_cons_of_le {place : Nat} {operands : List Expr}
    (h : (allLeaves operands.reverse).length ≤ place) (expr : Expr) :
    graftStack scion place (expr :: operands) =
      graft scion (place - (allLeaves operands.reverse).length) expr :: operands := by
  have happend := graftStack_append scion place [expr] operands
  rwa [if_neg (by omega), graftStack_singleton] at happend

-- An operator finds its operands with the graft in them, wherever it has gone.
theorem exists_graftStack_pair (place : Nat) (right left : Expr) (rest : List Expr) :
    ∃ right' left' rest', graftStack scion place (right :: left :: rest) =
        right' :: left' :: rest' ∧
      ∀ symbol, graftStack scion place (.binary symbol left right :: rest) =
        .binary symbol left' right' :: rest' := by
  have hleaves : (allLeaves (left :: rest).reverse).length =
      (allLeaves rest.reverse).length + left.leaves.length := by
    simp [allLeaves_append, allLeaves_singleton]
  by_cases hrest : place < (allLeaves rest.reverse).length
  · refine ⟨right, left, graftStack scion place rest, ?_, fun symbol => ?_⟩
    · rw [graftStack_cons_of_lt scion (by omega), graftStack_cons_of_lt scion hrest]
    · rw [graftStack_cons_of_lt scion hrest]
  · have hle : (allLeaves rest.reverse).length ≤ place := by omega
    by_cases hleft : place - (allLeaves rest.reverse).length < left.leaves.length
    · refine ⟨right, graft scion (place - (allLeaves rest.reverse).length) left, rest, ?_,
        fun symbol => ?_⟩
      · rw [graftStack_cons_of_lt scion (by omega), graftStack_cons_of_le scion hle]
      · rw [graftStack_cons_of_le scion hle, graft, if_pos hleft]
    · refine ⟨graft scion (place - (allLeaves (left :: rest).reverse).length) right, left, rest, ?_,
        fun symbol => ?_⟩
      · rw [graftStack_cons_of_le scion (by omega)]
      · rw [graftStack_cons_of_le scion hle, graft, if_neg hleft, hleaves, Nat.sub_sub]

end

end Reckoner.Expr
