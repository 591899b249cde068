import Reckoner.Token.Lexer

namespace Reckoner.Token

-- Brackets and commas are written the usual way.
structure Plain (token : Token) : Prop where
  opening : token.kind = .bracketOpen → token.lexeme = "("
  closing : token.kind = .bracketClose → token.lexeme = ")"
  comma : token.kind = .comma → token.lexeme = ","

instance (token : Token) : Decidable token.Plain :=
  decidable_of_iff ((token.kind = .bracketOpen → token.lexeme = "(") ∧
      (token.kind = .bracketClose → token.lexeme = ")") ∧
      (token.kind = .comma → token.lexeme = ","))
    ⟨fun ⟨opening, closing, comma⟩ => ⟨opening, closing, comma⟩,
      fun ⟨opening, closing, comma⟩ => ⟨opening, closing, comma⟩⟩

-- What else can be said of a token that was cut from a text.
structure Lexed (token : Token) : Prop extends Plain token where
  operator : token.kind = .operator → (Operator.ofSymbol? token.lexeme).isSome
  identifier : token.kind = .identifier → token.lexeme ≠ ""

theorem plain_of_kind {token : Token}
    (h : token.kind = .number ∨ token.kind = .operator ∨ token.kind = .identifier) :
    token.Plain := by
  constructor <;> intro hk <;> simp [hk] at h

theorem lexed_number (lexeme : String) : Lexed ⟨.number, lexeme⟩ where
  toPlain := plain_of_kind (.inl rfl)
  operator := by simp
  identifier := by simp

theorem lexed_name (c : Char) (rest : List Char) :
    Lexed ⟨.identifier, String.ofList (c :: rest)⟩ where
  toPlain := plain_of_kind (.inr (.inr rfl))
  operator := by simp
  identifier := by
    intro _ h
    have := congrArg String.toList h
    simp at this

theorem lexed_single {c : Char} {kind : TokenKind} (h : singleKind? c = some kind) :
    Lexed ⟨kind, String.singleton c⟩ := by
  unfold singleKind? at h
  split at h
  · rename_i hc
    cases h
    exact ⟨⟨by simp [hc], by simp, by simp⟩, by simp, by simp⟩
  · split at h
    · rename_i hc
      cases h
      exact ⟨⟨by simp, by simp [hc], by simp⟩, by simp, by simp⟩
    · split at h
      · rename_i hc
        cases h
        exact ⟨⟨by simp, by simp, by simp [hc]⟩, by simp, by simp⟩
      · split at h
        · rename_i hc
          cases h
          exact ⟨plain_of_kind (.inr (.inl rfl)), fun _ => hc, by simp⟩
        · cases h

theorem lexed_of_lexFrom {found tokens : List Token} {text : List Char}
    (h : lexFrom found text = .ok tokens) (hfound : ∀ token ∈ found, token.Lexed) :
    ∀ token ∈ tokens, token.Lexed := by
  fun_induction lexFrom found text with
  | case1 found =>
      cases h
      simpa using hfound
  | case2 found c rest hc ih => exact ih h (List.forall_mem_cons.mpr ⟨lexed_number _, hfound⟩)
  | case3 found c rest hn hc ih => exact ih h (List.forall_mem_cons.mpr ⟨lexed_name c _, hfound⟩)
  | case4 found c rest hn hl kind hk ih =>
      exact ih h (List.forall_mem_cons.mpr ⟨lexed_single hk, hfound⟩)
  | case5 => cases h

-- Only a character that begins no token stops the cutting.
theorem kind_of_lexFrom {found : List Token} {text : List Char} {error : EvalError}
    (h : lexFrom found text = .error error) : error.kind = .invalidCharacter := by
  fun_induction lexFrom found text with
  | case1 => cases h
  | case2 found c rest hc ih => exact ih h
  | case3 found c rest hn hc ih => exact ih h
  | case4 found c rest hn hl kind hk ih => exact ih h
  | case5 =>
      cases h
      rfl

theorem lexed_of_ofText {text : String} {tokens : List Token} (h : ofText text = .ok tokens) :
    ∀ token ∈ tokens, token.Lexed :=
  lexed_of_lexFrom h (by simp)

theorem kind_of_ofText {text : String} {error : EvalError} (h : ofText text = .error error) :
    error.kind = .invalidCharacter :=
  kind_of_lexFrom h

end Reckoner.Token
