import Reckoner.Proofs.Token.Matching
import Reckoner.Token.CallFault

namespace Reckoner.Token

variable {tokens front back inner group before after rest : List Token}
  {token opening closing : Token}

theorem balanced_append_iff (hfront : Balanced front) :
    Balanced (front ++ back) ↔ Balanced back := by
  refine ⟨fun h => ⟨?_, fun other hother => ?_⟩, hfront.append⟩
  · have htotal := h.total
    have hbalance := hfront.total
    rw [opens_append, closes_append] at htotal
    omega
  · have hle := h.fronts (front ++ other) ((List.prefix_append_right_inj front).mpr hother)
    have hbalance := hfront.total
    rw [opens_append, closes_append] at hle
    omega

-- The commas that no bracket of the tokens encloses.
def ownCommas (tokens : List Token) : Nat :=
  (List.range tokens.length).countP fun place =>
    kindAt tokens place = some .comma ∧ Balanced (tokens.take place)

theorem ownCommas_append (hfront : Balanced front) (back : List Token) :
    ownCommas (front ++ back) = ownCommas front + ownCommas back := by
  have hearlier : (List.range front.length).countP (fun place =>
      kindAt (front ++ back) place = some .comma ∧ Balanced ((front ++ back).take place)) =
      ownCommas front := by
    refine List.countP_congr fun place hplace => ?_
    have hlt := List.mem_range.mp hplace
    rw [kindAt_append hlt, List.take_append_of_le_length (Nat.le_of_lt hlt)]
  have hlater : (List.range back.length).countP ((fun place =>
      decide (kindAt (front ++ back) place = some .comma ∧
        Balanced ((front ++ back).take place))) ∘ (front.length + ·)) = ownCommas back := by
    refine List.countP_congr fun place _ => ?_
    simp only [Function.comp_apply, kindAt_length_add, List.take_length_add_append,
      balanced_append_iff hfront]
  rw [ownCommas, List.length_append, List.range_add, List.countP_append, List.countP_map,
    hearlier, hlater]

theorem ownCommas_singleton (token : Token) :
    ownCommas [token] = if token.kind = .comma then 1 else 0 := by
  simp [ownCommas, kindAt, balanced_nil, List.countP_cons]

-- What a bracket of the tokens encloses is not their own.
theorem ownCommas_group (hopening : opening.kind = .bracketOpen)
    (hclosing : closing.kind = .bracketClose) (hinner : Balanced inner) :
    ownCommas (opening :: inner ++ [closing]) = 0 := by
  refine List.countP_eq_zero.mpr fun place hplace => ?_
  simp only [decide_eq_true_eq, not_and]
  intro hcomma hbalanced
  cases place with
  | zero => simp [kindAt, hopening] at hcomma
  | succ place =>
      by_cases hlt : place < inner.length
      · have htotal := hbalanced.total
        have hfront := hinner.fronts _ (List.take_prefix place inner)
        rw [List.cons_append, List.take_succ_cons,
          List.take_append_of_le_length (Nat.le_of_lt hlt)] at htotal
        simp only [opens_cons, closes_cons, hopening, reduceCtorEq, ite_true, ite_false] at htotal
        omega
      · have hlast : place = inner.length := by
          have := List.mem_range.mp hplace
          simp at this
          omega
        subst hlast
        have hkind := kindAt_length (opening :: inner) closing []
        rw [List.length_cons, hcomma, hclosing] at hkind
        cases hkind

theorem Innermost.lt_and_lt {left place right : Nat} (h : Innermost tokens left place)
    (hmates : Mates tokens left right) : left < place ∧ place < right := by
  obtain ⟨hleft, other, -, hright, hother⟩ := h.encloses
  have hunique := hmates.right_unique hother
  omega

namespace CallRule

-- Inside a call the commas of its bracket are those of no bracket inside it.
theorem commasOf_eq (before after : List Token) (hopening : opening.kind = .bracketOpen)
    (hclosing : closing.kind = .bracketClose) (hinner : Balanced inner) :
    commasOf (before ++ opening :: (inner ++ closing :: after)) before.length =
      ownCommas inner := by
  have hmates := @mates_of_balanced _ before after _ _ hopening hclosing hinner
  have hlength : (before ++ opening :: (inner ++ closing :: after)).length =
      before.length + 1 + (inner.length + (after.length + 1)) := by
    simp
    omega
  rw [commasOf, hlength, List.range_add, List.range_add (n := inner.length), List.map_append,
    List.countP_append, List.countP_append]
  have hbefore : (List.range (before.length + 1)).countP (fun place =>
      kindAt (before ++ opening :: (inner ++ closing :: after)) place = some .comma ∧
        Innermost (before ++ opening :: (inner ++ closing :: after)) before.length place) = 0 := by
    refine List.countP_eq_zero.mpr fun place hplace => ?_
    have hle := List.mem_range.mp hplace
    simp only [decide_eq_true_eq, not_and]
    intro _ hinnermost
    have hlt := (hinnermost.lt_and_lt hmates).1
    omega
  have hafter : (((List.range (after.length + 1)).map (inner.length + ·)).map
      (before.length + 1 + ·)).countP (fun place =>
      kindAt (before ++ opening :: (inner ++ closing :: after)) place = some .comma ∧
        Innermost (before ++ opening :: (inner ++ closing :: after)) before.length place) = 0 := by
    refine List.countP_eq_zero.mpr fun place hplace => ?_
    simp only [List.mem_map, decide_eq_true_eq, not_and] at hplace ⊢
    obtain ⟨_, ⟨further, -, rfl⟩, rfl⟩ := hplace
    intro _ hinnermost
    have hlt := (hinnermost.lt_and_lt hmates).2
    omega
  have hinside : ((List.range inner.length).map (before.length + 1 + ·)).countP (fun place =>
      kindAt (before ++ opening :: (inner ++ closing :: after)) place = some .comma ∧
        Innermost (before ++ opening :: (inner ++ closing :: after)) before.length place) =
      ownCommas inner := by
    rw [List.countP_map]
    refine List.countP_congr fun place hplace => ?_
    have hkind : kindAt (before ++ opening :: (inner ++ closing :: after))
        (before.length + 1 + place) = kindAt inner place := by
      have h := kindAt_length_add (before ++ [opening]) (inner ++ closing :: after) place
      rw [kindAt_append (List.mem_range.mp hplace)] at h
      simpa using h
    simp only [Function.comp_apply, hkind, decide_eq_true_eq]
    refine and_congr_right fun hcomma => ?_
    obtain ⟨front, token, back, rfl, rfl, htoken⟩ := kindAt_eq_some_iff.mp hcomma
    have hiff := @innermost_iff_balanced before after _ _ _ front back hopening hclosing htoken
      hinner
    rw [List.take_left]
    simpa [Nat.add_assoc, Nat.add_comm 1] using hiff
  rw [hbefore, hinside, hafter]
  omega

end CallRule

end Reckoner.Token
