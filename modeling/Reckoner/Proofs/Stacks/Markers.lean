import Reckoner.Proofs.CallRule
import Reckoner.Proofs.Stacks.Placed
import Reckoner.Proofs.Stacks.Reached

namespace Reckoner

namespace Stacks

open Token (Unmated)
open Token.CallRule (calledAt namedAt)

def isMarker : Waiting → Bool
  | .operator _ => false
  | .bracket | .call _ => true

-- An open bracket, with the frame of the call that it opens.
structure Mark where
  place : Nat
  frame : Option Frame

-- What waits for the bracket to be closed.
def Mark.entry (mark : Mark) : Waiting :=
  match mark.frame with
  | some frame => .call frame.name
  | none => .bracket

-- The frame is that of the name before the bracket, and its base is the number of
-- operands that there were when the reading came to the name.
inductive Mark.Stands (tokens : List Token) : Mark → Prop
  | bracket {place : Nat} : calledAt tokens place = none → Stands tokens ⟨place, none⟩
  | call {place finished : Nat} {function : Function} {earlier : Stacks} :
      namedAt tokens place = some function → Reaches (tokens.take place) earlier →
      Stands tokens ⟨place + 1, some ⟨function.name, earlier.operands.length, finished⟩⟩

-- The open brackets, newest first, are what the stacks hold.
structure Marks (tokens : List Token) (waiting : List Waiting) (calls : List Frame)
    (marks : List Mark) : Prop where
  falling : marks.Pairwise fun newer older => older.place < newer.place
  unmated : ∀ place, (∃ mark ∈ marks, mark.place = place) ↔ Unmated tokens place
  markers : waiting.filter isMarker = marks.map Mark.entry
  frames : calls = marks.filterMap Mark.frame
  stands : ∀ mark ∈ marks, mark.Stands tokens

section

variable {tokens front more : List Token} {waiting : List Waiting} {calls : List Frame}
  {mark : Mark} {marks : List Mark}

theorem Marks.lt_length (h : Marks tokens waiting calls marks) (hmark : mark ∈ marks) :
    mark.place < tokens.length :=
  ((h.unmated mark.place).mp ⟨mark, hmark, rfl⟩).lt_length

theorem Mark.Stands.append (h : mark.Stands front) (hplace : mark.place < front.length)
    (more : List Token) : mark.Stands (front ++ more) := by
  cases h with
  | bracket hcalled =>
      exact .bracket (by rw [Token.CallRule.calledAt_append (Nat.le_of_lt hplace), hcalled])
  | @call place finished function earlier hnamed hreaches =>
      have hlt : place < front.length := Nat.lt_of_succ_lt hplace
      refine .call ?_ ?_
      · rw [namedAt, List.getElem?_append_left hlt, ← namedAt, hnamed]
      · rwa [List.take_append_of_le_length (Nat.le_of_lt hlt)]

theorem Marks.cons (h : Marks front waiting calls marks) (hstands : mark.Stands (front ++ more))
    (hplace : front.length ≤ mark.place)
    (hunmated : ∀ left, Unmated (front ++ more) left ↔ left = mark.place ∨ Unmated front left) :
    Marks (front ++ more) (mark.entry :: waiting) (mark.frame.toList ++ calls) (mark :: marks) where
  falling := List.pairwise_cons.mpr
    ⟨fun _ holder => Nat.lt_of_lt_of_le (h.lt_length holder) hplace, h.falling⟩
  unmated place := by
    rw [hunmated, ← h.unmated]
    simp [eq_comm]
  markers := by
    have hmarker : isMarker mark.entry := by
      unfold Mark.entry
      split <;> rfl
    rw [List.filter_cons_of_pos hmarker, h.markers, List.map_cons]
  frames := by
    rw [List.filterMap_cons, h.frames]
    cases mark.frame <;> rfl
  stands := List.forall_mem_cons.mpr
    ⟨hstands, fun older holder => (h.stands older holder).append (h.lt_length holder) more⟩

end

end Stacks

open Stacks (Marks Mark)

theorem Reader.Placed.exists_marks {tokens : List Token} {spans : List (Option Token.CallRule.Span)}
    {waiting : List Waiting} {calls : List Frame} (h : Placed tokens spans waiting calls) :
    ∃ marks, Marks tokens waiting calls marks := by
  induction h with
  | nil hshut =>
      refine ⟨[], .nil, fun place => ?_, rfl, rfl, by simp⟩
      simpa using hshut.not_unmated [] (Nat.zero_le place)
  | operator _ ih =>
      obtain ⟨marks, hmarks⟩ := ih
      exact ⟨marks, hmarks.falling, hmarks.unmated, hmarks.markers, hmarks.frames, hmarks.stands⟩
  | @bracket front inner opening earlier hreads _ hprevious hopening hinner ih =>
      obtain ⟨marks, hmarks⟩ := ih
      have hlast : earlier.previous = front.getLast? :=
        (reads_iff.mp hreads).1.trans (Token.after_none front)
      have hcalled := Token.CallRule.calledAt_length front opening inner
      rw [← hlast, hprevious] at hcalled
      exact ⟨_, hmarks.cons (.bracket hcalled) (Nat.le_refl _)
        fun _ => Token.unmated_opening_iff hopening hinner⟩
  | @call front inner name opening function earlier finished hreads _ hprevious hname hopening
      hinner ih =>
      obtain ⟨marks, hmarks⟩ := ih
      have hkind := Token.CallRule.kind_of_calledBy hname
      have hnamed := Token.CallRule.namedAt_length front name (opening :: inner)
      rw [hname] at hnamed
      have hreaches : Stacks.Reaches ((front ++ name :: opening :: inner).take front.length)
          earlier.state := by
        rw [List.take_left]
        exact hreads.reaches hprevious
      refine ⟨_, hmarks.cons (.call hnamed hreaches) (Nat.le_succ _) fun left => ?_⟩
      have hconcat := @Token.unmated_concat_iff front name left (by simp [hkind]) (by simp [hkind])
      have hopened := @Token.unmated_opening_iff (front ++ [name]) inner opening left hopening hinner
      rwa [hconcat, List.append_assoc, List.length_append] at hopened

end Reckoner
