import Reckoner.Token.Basic

namespace Reckoner.Token

def opens (tokens : List Token) : Nat := tokens.countP (·.kind == .bracketOpen)

def closes (tokens : List Token) : Nat := tokens.countP (·.kind == .bracketClose)

-- Every bracket is closed, and none is closed before it is opened.
structure Balanced (tokens : List Token) : Prop where
  total : closes tokens = opens tokens
  fronts : ∀ front, front <+: tokens → closes front ≤ opens front

instance (tokens : List Token) : Decidable (Balanced tokens) :=
  decidable_of_iff
    (closes tokens = opens tokens ∧
      ∀ count < tokens.length + 1, closes (tokens.take count) ≤ opens (tokens.take count))
    ⟨fun ⟨total, fronts⟩ => ⟨total, fun front hfront => by
        have hcount := fronts front.length (Nat.lt_succ_of_le hfront.length_le)
        rwa [← List.prefix_iff_eq_take.mp hfront] at hcount⟩,
      fun ⟨total, fronts⟩ => ⟨total, fun count _ => fronts _ (List.take_prefix count tokens)⟩⟩

def kindAt (tokens : List Token) (place : Nat) : Option TokenKind := tokens[place]?.map (·.kind)

def between (tokens : List Token) (left right : Nat) : List Token :=
  (tokens.take right).drop (left + 1)

-- The bracket that opens at the one place closes at the other. A closing bracket
-- that has no open one is no bracket's mate.
structure Mates (tokens : List Token) (left right : Nat) : Prop where
  lt : left < right
  opening : kindAt tokens left = some .bracketOpen
  closing : kindAt tokens right = some .bracketClose
  balanced : Balanced (between tokens left right)

instance (tokens : List Token) (left right : Nat) : Decidable (Mates tokens left right) :=
  decidable_of_iff
    (left < right ∧ kindAt tokens left = some .bracketOpen ∧
      kindAt tokens right = some .bracketClose ∧ Balanced (between tokens left right))
    ⟨fun ⟨lt, opening, closing, balanced⟩ => ⟨lt, opening, closing, balanced⟩,
      fun ⟨lt, opening, closing, balanced⟩ => ⟨lt, opening, closing, balanced⟩⟩

-- The bracket that opens at `left` closes behind the place.
def Encloses (tokens : List Token) (left place : Nat) : Prop :=
  left < place ∧ ∃ right < tokens.length, place < right ∧ Mates tokens left right

instance (tokens : List Token) (left place : Nat) : Decidable (Encloses tokens left place) :=
  inferInstanceAs (Decidable (_ ∧ _))

-- No bracket that encloses the place opens behind `left`.
structure Innermost (tokens : List Token) (left place : Nat) : Prop where
  encloses : Encloses tokens left place
  last : ∀ other < place, Encloses tokens other place → other ≤ left

instance (tokens : List Token) (left place : Nat) : Decidable (Innermost tokens left place) :=
  decidable_of_iff
    (Encloses tokens left place ∧ ∀ other < place, Encloses tokens other place → other ≤ left)
    ⟨fun ⟨encloses, last⟩ => ⟨encloses, last⟩, fun ⟨encloses, last⟩ => ⟨encloses, last⟩⟩

end Reckoner.Token
