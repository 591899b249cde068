import Mathlib.Data.List.TakeWhile
import Reckoner.Proofs.Token.Lexed

namespace Reckoner.Token

-- The characters that tokens are made of.
def isTokenChar (c : Char) : Bool := isNumberChar c || Text.isLetter c || (singleKind? c).isSome

-- The characters of a token come from the text, and those of numbers and names
-- are of one sort.
structure Spelled (token : Token) : Prop where
  blank : ∀ c ∈ token.lexeme.toList, Text.isBlank c = false
  number : token.kind = .number → ∀ c ∈ token.lexeme.toList, isNumberChar c
  name : token.kind = .identifier → ∀ c ∈ token.lexeme.toList, Text.isLetter c

theorem kind_of_singleKind {c : Char} {kind : TokenKind} (hkind : singleKind? c = some kind) :
    kind ≠ .number ∧ kind ≠ .identifier := by
  unfold singleKind? at hkind
  split at hkind
  · cases hkind
    decide
  · split at hkind
    · cases hkind
      decide
    · split at hkind
      · cases hkind
        decide
      · split at hkind
        · cases hkind
          decide
        · cases hkind

theorem spelled_single {c : Char} {kind : TokenKind} (hkind : singleKind? c = some kind)
    (hc : Text.isBlank c = false) : Spelled ⟨kind, String.singleton c⟩ where
  blank := by simpa using hc
  number h := absurd h (kind_of_singleKind hkind).1
  name h := absurd h (kind_of_singleKind hkind).2

section

variable {p : Char → Bool} {c : Char} {rest : List Char}

theorem mem_run (hc : p c) : ∀ d ∈ (String.ofList (c :: rest.takeWhile p)).toList, p d := by
  intro d hd
  rw [String.toList_ofList] at hd
  rcases List.mem_cons.mp hd with rfl | hd
  · exact hc
  · exact List.mem_takeWhile_imp hd

theorem mem_of_mem_run :
    ∀ d ∈ (String.ofList (c :: rest.takeWhile p)).toList, d ∈ c :: rest := by
  intro d hd
  rw [String.toList_ofList] at hd
  rcases List.mem_cons.mp hd with rfl | hd
  · exact List.mem_cons_self
  · exact List.mem_cons_of_mem _ ((List.takeWhile_prefix p).subset hd)

-- A run of characters of one sort ends where another sort begins.
theorem forall_of_run {q : Char → Prop} (hc : p c) (hsort : ∀ d, p d → q d)
    (hrest : ∀ d ∈ rest.dropWhile p, q d) : ∀ d ∈ c :: rest, q d := by
  intro d hd
  rcases List.mem_cons.mp hd with rfl | hd
  · exact hsort d hc
  · rw [← @List.takeWhile_append_dropWhile _ p rest] at hd
    rcases List.mem_append.mp hd with hd | hd
    · exact hsort d (List.mem_takeWhile_imp hd)
    · exact hrest d hd

end

theorem spelled_of_lexFrom {found tokens : List Token} {text : List Char}
    (hlex : lexFrom found text = .ok tokens) (hblank : ∀ c ∈ text, Text.isBlank c = false)
    (hfound : ∀ token ∈ found, token.Spelled) : ∀ token ∈ tokens, token.Spelled := by
  fun_induction lexFrom found text with
  | case1 found =>
      cases hlex
      simpa using hfound
  | case2 found c rest hc ih =>
      apply ih hlex fun d hd => hblank d (List.mem_cons_of_mem _ ((List.dropWhile_suffix _).subset hd))
      refine List.forall_mem_cons.mpr ⟨⟨?_, fun _ => mem_run hc, by simp⟩, hfound⟩
      exact fun d hd => hblank d (mem_of_mem_run d hd)
  | case3 found c rest hn hc ih =>
      apply ih hlex fun d hd => hblank d (List.mem_cons_of_mem _ ((List.dropWhile_suffix _).subset hd))
      refine List.forall_mem_cons.mpr ⟨⟨?_, by simp, fun _ => mem_run hc⟩, hfound⟩
      exact fun d hd => hblank d (mem_of_mem_run d hd)
  | case4 found c rest hn hl kind hk ih =>
      simp only [List.forall_mem_cons] at hblank
      exact ih hlex hblank.2 (List.forall_mem_cons.mpr ⟨spelled_single hk hblank.1, hfound⟩)
  | case5 => cases hlex

theorem isTokenChar_of_lexFrom {found tokens : List Token} {text : List Char}
    (hlex : lexFrom found text = .ok tokens) : ∀ c ∈ text, isTokenChar c := by
  fun_induction lexFrom found text with
  | case1 => simp
  | case2 found c rest hc ih => exact forall_of_run hc (fun d hd => by simp [isTokenChar, hd]) (ih hlex)
  | case3 found c rest hn hc ih =>
      exact forall_of_run hc (fun d hd => by simp [isTokenChar, hd]) (ih hlex)
  | case4 found c rest hn hl kind hk ih =>
      exact List.forall_mem_cons.mpr ⟨by simp [isTokenChar, hk], ih hlex⟩
  | case5 => cases hlex

-- The cutting stops at the first character that no token has.
theorem exists_of_lexFrom_error {found : List Token} {text : List Char} {error : EvalError}
    (hlex : lexFrom found text = .error error) :
    ∃ c ∈ text, error = .invalidCharacter (String.singleton c) ∧ isTokenChar c = false := by
  fun_induction lexFrom found text with
  | case1 => cases hlex
  | case2 found c rest hc ih =>
      obtain ⟨d, hd, herror⟩ := ih hlex
      exact ⟨d, List.mem_cons_of_mem _ ((List.dropWhile_suffix _).subset hd), herror⟩
  | case3 found c rest hn hc ih =>
      obtain ⟨d, hd, herror⟩ := ih hlex
      exact ⟨d, List.mem_cons_of_mem _ ((List.dropWhile_suffix _).subset hd), herror⟩
  | case4 found c rest hn hl kind hk ih =>
      obtain ⟨d, hd, herror⟩ := ih hlex
      exact ⟨d, List.mem_cons_of_mem _ hd, herror⟩
  | case5 found c rest hn hl hk =>
      cases hlex
      exact ⟨c, List.mem_cons_self, rfl, by simp [isTokenChar, hn, hl, hk]⟩

theorem isBlank_of_mem_dropBlanks {text : List Char} :
    ∀ c ∈ Text.dropBlanks text, Text.isBlank c = false := by
  intro c hc
  simpa using (List.mem_filter.mp hc).2

theorem spelled_of_ofText {text : String} {tokens : List Token} (hlex : ofText text = .ok tokens) :
    ∀ token ∈ tokens, token.Spelled :=
  spelled_of_lexFrom hlex isBlank_of_mem_dropBlanks (by simp)

-- Blanks and the characters of tokens are all that an accepted text consists of.
theorem isTokenChar_of_ofText {text : String} {tokens : List Token}
    (hlex : ofText text = .ok tokens) : ∀ c ∈ text.toList, Text.isBlank c ∨ isTokenChar c := by
  intro c hc
  cases hblank : Text.isBlank c with
  | true => exact .inl rfl
  | false => exact .inr (isTokenChar_of_lexFrom hlex c (by simp [Text.dropBlanks, hc, hblank]))

theorem exists_of_ofText_error {text : String} {error : EvalError}
    (hlex : ofText text = .error error) :
    ∃ c, error = .invalidCharacter (String.singleton c) ∧ Text.isBlank c = false ∧
      isTokenChar c = false := by
  obtain ⟨c, hc, herror, htoken⟩ := exists_of_lexFrom_error hlex
  exact ⟨c, herror, isBlank_of_mem_dropBlanks c hc, htoken⟩

end Reckoner.Token
