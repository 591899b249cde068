import Reckoner.Proofs.Token.Matching

namespace Reckoner.Token

variable {tokens front inner more : List Token} {token opening : Token} {left : Nat}

-- An opening bracket that nothing closes.
structure Unmated (tokens : List Token) (left : Nat) : Prop where
  opening : kindAt tokens left = some .bracketOpen
  unmated : ∀ right, ¬Mates tokens left right

theorem Unmated.lt_length (h : Unmated tokens left) : left < tokens.length :=
  lt_length_of_kindAt h.opening

theorem Unmated.of_append (h : Unmated (tokens ++ more) left) (hleft : left < tokens.length) :
    Unmated tokens left where
  opening := by rw [← kindAt_append hleft more, h.opening]
  unmated right hmates := h.unmated right ((mates_append_iff hmates.right_lt more).mpr hmates)

theorem Shut.not_unmated (h : Shut inner) (front : List Token) (hleft : front.length ≤ left) :
    ¬Unmated (front ++ inner) left := by
  intro hunmated
  obtain ⟨right, hmates⟩ := h.exists_mates hleft hunmated.opening
  exact hunmated.unmated right hmates

theorem unmated_concat_iff (hopening : token.kind ≠ .bracketOpen) (hclosing : token.kind ≠ .bracketClose) :
    Unmated (front ++ [token]) left ↔ Unmated front left := by
  have hlast := kindAt_length front token []
  constructor
  · intro h
    have hne : left ≠ front.length := by
      rintro rfl
      rw [h.opening] at hlast
      exact hopening (Option.some.inj hlast).symm
    have hlt := h.lt_length
    rw [List.length_append, List.length_singleton] at hlt
    exact h.of_append (by omega)
  · intro h
    refine ⟨by rw [kindAt_append h.lt_length, h.opening], fun right hmates => ?_⟩
    have hne : right ≠ front.length := by
      rintro rfl
      rw [hmates.closing] at hlast
      exact hclosing (Option.some.inj hlast).symm
    have hlt := hmates.right_lt
    rw [List.length_append, List.length_singleton] at hlt
    exact h.unmated right ((mates_append_iff (by omega) [token]).mp hmates)

-- What stands behind an open bracket closes nothing before it.
theorem unmated_opening_iff (hopening : opening.kind = .bracketOpen) (hinner : Balanced inner) :
    Unmated (front ++ opening :: inner) left ↔ left = front.length ∨ Unmated front left := by
  have hkind := kindAt_length front opening inner
  have hassoc : front ++ opening :: inner = (front ++ [opening]) ++ inner := by simp
  constructor
  · intro h
    rcases Nat.lt_trichotomy left front.length with hlt | heq | hgt
    · exact .inr (h.of_append hlt)
    · exact .inl heq
    · rw [hassoc] at h
      exact absurd h (hinner.shut.not_unmated _ (by rwa [List.length_append]))
  · rintro (rfl | h)
    · refine ⟨by rw [hkind, hopening], fun right hmates => ?_⟩
      have hright := hmates.right_lt_of_opening hopening hinner (Nat.le_refl _)
      exact absurd hmates.lt (Nat.lt_asymm hright)
    · have hlt := h.lt_length
      refine ⟨by rw [kindAt_append hlt, h.opening], fun right hmates => ?_⟩
      have hright := hmates.right_lt_of_opening hopening hinner (Nat.le_of_lt hlt)
      exact h.unmated right ((mates_append_iff hright _).mp hmates)

end Reckoner.Token
