import Mathlib.Data.List.Chain
import Reckoner.Proofs.Text.Ranges
import Reckoner.Proofs.Token.Spelled

namespace Reckoner

-- A text with blanks put anywhere into it.
inductive Text.Spaced : List Char → List Char → Prop
  | nil : Spaced [] []
  | blank {text spaced : List Char} {c : Char} (hblank : isBlank c) (hspaced : Spaced text spaced) :
      Spaced text (c :: spaced)
  | keep {text spaced : List Char} (c : Char) (hspaced : Spaced text spaced) :
      Spaced (c :: text) (c :: spaced)

theorem Text.dropBlanks_of_spaced {text spaced : List Char} (hspaced : Spaced text spaced)
    (htext : ∀ c ∈ text, isBlank c = false) : dropBlanks spaced = text := by
  induction hspaced with
  | nil => rfl
  | blank hblank _ ih => simpa [dropBlanks, hblank] using ih htext
  | keep c _ ih =>
      simp only [List.forall_mem_cons] at htext
      simpa [dropBlanks, htext.1] using ih htext.2

namespace Token

-- The characters that are tokens by themselves, with the kinds of those tokens.
def singles : List (Char × TokenKind) :=
  [('(', .bracketOpen), (')', .bracketClose), (',', .comma), ('+', .operator), ('-', .operator),
   ('*', .operator), ('/', .operator), ('%', .operator)]

-- A character that no token has.
def isStray (c : Char) : Bool :=
  !(isNumberChar c || Text.isLetter c || singles.any (·.1 == c))

-- Numbers and names are runs of one sort of characters. Every other token is a
-- single character.
def IsWord (token : Token) : Prop :=
  match token.kind with
  | .number => token.lexeme ≠ "" ∧ ∀ c ∈ token.lexeme.toList, isNumberChar c
  | .identifier => token.lexeme ≠ "" ∧ ∀ c ∈ token.lexeme.toList, Text.isLetter c
  | kind => ∃ c, token.lexeme = String.singleton c ∧ (c, kind) ∈ singles

-- Two numbers side by side would be one number, and two names one name.
def Apart (first second : Token) : Prop :=
  ¬(first.kind = .number ∧ second.kind = .number) ∧
    ¬(first.kind = .identifier ∧ second.kind = .identifier)

def joined (tokens : List Token) : List Char := tokens.flatMap (·.lexeme.toList)

-- No token of the list could be longer.
structure Maximal (tokens : List Token) : Prop where
  words : ∀ token ∈ tokens, token.IsWord
  apart : tokens.IsChain Apart

-- The tokens are the whole text.
structure IsSplit (text : List Char) (tokens : List Token) : Prop extends Maximal tokens where
  joined : joined tokens = text

theorem singleKind_of_mem : ∀ entry ∈ singles, singleKind? entry.1 = some entry.2 := by decide

theorem exists_single_of_operator (operator : Operator) :
    ∃ c, operator.symbol = String.singleton c ∧ (c, .operator) ∈ singles := by
  cases operator with
  | add => exact ⟨'+', rfl, by decide⟩
  | sub => exact ⟨'-', rfl, by decide⟩
  | mul => exact ⟨'*', rfl, by decide⟩
  | div => exact ⟨'/', rfl, by decide⟩
  | rem => exact ⟨'%', rfl, by decide⟩

theorem mem_of_singleKind {c : Char} {kind : TokenKind} (hkind : singleKind? c = some kind) :
    (c, kind) ∈ singles := by
  unfold singleKind? at hkind
  by_cases hopening : c = '('
  · simp_all [singles]
  by_cases hclosing : c = ')'
  · simp_all [singles]
  by_cases hcomma : c = ','
  · simp_all [singles]
  simp only [hopening, hclosing, hcomma, if_false] at hkind
  split at hkind
  · rename_i hsome
    cases hkind
    obtain ⟨operator, hoperator⟩ := Option.isSome_iff_exists.mp hsome
    obtain ⟨d, hsymbol, hmem⟩ := exists_single_of_operator operator
    have hfound : operator.symbol = String.singleton c := by
      simpa using List.find?_some hoperator
    obtain rfl : d = c := String.singleton_inj.mp (hsymbol.symm.trans hfound)
    exact hmem
  · cases hkind

theorem isStray_eq (c : Char) : isStray c = !isTokenChar c := by
  have hsingle : singles.any (·.1 == c) = (singleKind? c).isSome := by
    rw [Bool.eq_iff_iff, List.any_eq_true]
    constructor
    · rintro ⟨⟨other, kind⟩, hmem, hother⟩
      obtain rfl : other = c := by simpa using hother
      rw [singleKind_of_mem _ hmem]
      rfl
    · intro hsome
      obtain ⟨kind, hkind⟩ := Option.isSome_iff_exists.mp hsome
      exact ⟨(c, kind), mem_of_singleKind hkind, by simp⟩
  rw [isStray, isTokenChar, hsingle]

theorem isLetter_of_isNumberChar {c : Char} (hc : isNumberChar c) : Text.isLetter c = false := by
  rw [isNumberChar, Bool.or_eq_true] at hc
  rcases hc with hdigit | hpoint
  · exact Text.isLetter_of_isDigit hdigit
  · obtain rfl : c = '.' := by simpa using hpoint
    decide

theorem single_cases : ∀ entry ∈ singles, isNumberChar entry.1 = false ∧
    Text.isLetter entry.1 = false ∧ Text.isBlank entry.1 = false ∧
    entry.2 ≠ .number ∧ entry.2 ≠ .identifier := by
  decide

-- Nothing that a token has is dropped as a blank.
theorem isBlank_of_not_isStray {c : Char} (hc : isStray c = false) : Text.isBlank c = false := by
  rw [Bool.eq_false_iff]
  intro hblank
  have hletter := Text.isLetter_of_isBlank hblank
  have hdigit := Text.isDigit_of_isBlank hblank
  have hpoint : c ≠ '.' := by
    rintro rfl
    exact absurd hblank (by decide)
  have hsingle : ∀ entry ∈ singles, entry.1 ≠ c := by
    rintro entry hentry rfl
    exact absurd hblank (by simp [(single_cases entry hentry).2.2.1])
  have hstray : isStray c := by
    simp only [isStray, isNumberChar, hletter, hdigit, Bool.false_or, Bool.or_false,
      Bool.not_eq_true', Bool.or_eq_false_iff, beq_eq_false_iff_ne, List.any_eq_false]
    exact ⟨hpoint, by simpa using hsingle⟩
  rw [hc] at hstray
  cases hstray

-- The first character of a token tells its sort.
structure Begins (token : Token) (c : Char) : Prop where
  number : isNumberChar c ↔ token.kind = .number
  name : Text.isLetter c ↔ token.kind = .identifier

theorem exists_cons_of_ne_empty {text : String} (htext : text ≠ "") :
    ∃ c rest, text.toList = c :: rest := by
  cases hlist : text.toList with
  | nil => exact absurd (String.toList_eq_nil_iff.mp hlist) htext
  | cons c rest => exact ⟨c, rest, rfl⟩

theorem IsWord.begins {token : Token} (hword : token.IsWord) :
    ∃ c rest, token.lexeme.toList = c :: rest ∧ token.Begins c := by
  unfold IsWord at hword
  split at hword
  · rename_i hkind
    obtain ⟨c, rest, hlexeme⟩ := exists_cons_of_ne_empty hword.1
    have hc : isNumberChar c := hword.2 c (by simp [hlexeme])
    exact ⟨c, rest, hlexeme, by simp [hc, hkind], by simp [isLetter_of_isNumberChar hc, hkind]⟩
  · rename_i hkind
    obtain ⟨c, rest, hlexeme⟩ := exists_cons_of_ne_empty hword.1
    have hc : Text.isLetter c := hword.2 c (by simp [hlexeme])
    have hnumber : isNumberChar c = false := by
      rw [Bool.eq_false_iff]
      intro hnumber
      simp [isLetter_of_isNumberChar hnumber] at hc
    exact ⟨c, rest, hlexeme, by simp [hnumber, hkind], by simp [hc, hkind]⟩
  · obtain ⟨c, hlexeme, hmem⟩ := hword
    obtain ⟨hnumber, hletter, -, hkind⟩ := single_cases _ hmem
    exact ⟨c, [], by rw [hlexeme, String.toList_singleton], by simpa [hnumber] using hkind.1,
      by simpa [hletter] using hkind.2⟩

-- What follows a token does not make it longer.
def EndsBefore (token : Token) (rest : List Char) : Prop :=
  ∀ c ∈ rest.head?, ¬(token.kind = .number ∧ isNumberChar c) ∧
    ¬(token.kind = .identifier ∧ Text.isLetter c)

-- It is the same to look at the next token and at the next character.
theorem endsBefore_joined_iff {token : Token} {tokens : List Token}
    (hwords : ∀ other ∈ tokens, other.IsWord) :
    token.EndsBefore (joined tokens) ↔ ∀ next ∈ tokens.head?, token.Apart next := by
  cases tokens with
  | nil => simp [EndsBefore, joined]
  | cons next rest =>
      obtain ⟨c, more, hlexeme, hbegins⟩ := (hwords next (by simp)).begins
      have hhead : (joined (next :: rest)).head? = some c := by simp [joined, hlexeme]
      simp only [EndsBefore, Apart, hhead, List.head?_cons, Option.mem_some, forall_eq',
        hbegins.number, hbegins.name]

section

variable {p : Char → Bool} {run rest : List Char}

theorem takeWhile_run (hrun : ∀ c ∈ run, p c) (hrest : ∀ c ∈ rest.head?, p c = false) :
    (run ++ rest).takeWhile p = run := by
  rw [List.takeWhile_append_of_pos hrun]
  cases rest with
  | nil => simp
  | cons c rest => simp [hrest c rfl]

theorem dropWhile_run (hrun : ∀ c ∈ run, p c) (hrest : ∀ c ∈ rest.head?, p c = false) :
    (run ++ rest).dropWhile p = rest := by
  rw [List.dropWhile_append_of_pos hrun]
  cases rest with
  | nil => rfl
  | cons c rest => simp [hrest c rfl]

end

theorem mk_eq_of_toList {token : Token} {kind : TokenKind} {lexeme : List Char}
    (hkind : token.kind = kind) (hlexeme : token.lexeme.toList = lexeme) :
    ⟨kind, String.ofList lexeme⟩ = token := by
  rw [← hkind, ← hlexeme, String.ofList_toList]

-- One token is cut off whole.
theorem lexFrom_word {token : Token} {rest : List Char} (hword : token.IsWord)
    (hends : token.EndsBefore rest) (found : List Token) :
    lexFrom found (token.lexeme.toList ++ rest) = lexFrom (token :: found) rest := by
  obtain ⟨c, run, hlexeme, hbegins⟩ := hword.begins
  unfold IsWord at hword
  rw [hlexeme, List.cons_append, lexFrom]
  split at hword
  · rename_i hkind
    have hrun : ∀ d ∈ run, isNumberChar d := fun d hd => hword.2 d (by simp [hlexeme, hd])
    have hrest : ∀ d ∈ rest.head?, isNumberChar d = false := fun d hd => by
      have hmore := (hends d hd).1
      simpa only [hkind, true_and, Bool.not_eq_true] using hmore
    rw [if_pos (hbegins.number.mpr hkind), takeWhile_run hrun hrest, dropWhile_run hrun hrest,
      mk_eq_of_toList hkind hlexeme]
  · rename_i hkind
    have hnumber : ¬isNumberChar c := by rw [hbegins.number, hkind]; decide
    have hrun : ∀ d ∈ run, Text.isLetter d := fun d hd => hword.2 d (by simp [hlexeme, hd])
    have hrest : ∀ d ∈ rest.head?, Text.isLetter d = false := fun d hd => by
      have hmore := (hends d hd).2
      simpa only [hkind, true_and, Bool.not_eq_true] using hmore
    rw [if_neg hnumber, if_pos (hbegins.name.mpr hkind), takeWhile_run hrun hrest,
      dropWhile_run hrun hrest, mk_eq_of_toList hkind hlexeme]
  · obtain ⟨d, hd, hmem⟩ := hword
    have hcons : [d] = c :: run := by rw [← hlexeme, hd, String.toList_singleton]
    obtain ⟨rfl, rfl⟩ := List.cons.inj hcons
    obtain ⟨hnumber, hletter, -⟩ := single_cases _ hmem
    rw [if_neg (by simp [hnumber]), if_neg (by simp [hletter]), singleKind_of_mem _ hmem]
    simp only [← hd, List.nil_append]

-- Tokens that could not be longer are found again in their text.
theorem lexFrom_joined {tokens : List Token} (hmaximal : Maximal tokens) (found : List Token) :
    lexFrom found (joined tokens) = .ok (found.reverse ++ tokens) := by
  obtain ⟨hwords, hapart⟩ := hmaximal
  induction tokens generalizing found with
  | nil => simp [joined, lexFrom]
  | cons token tokens ih =>
      simp only [List.forall_mem_cons] at hwords
      obtain ⟨hnext, hchain⟩ := List.isChain_cons.mp hapart
      have hends := (endsBefore_joined_iff hwords.2).mpr hnext
      rw [joined, List.flatMap_cons, ← joined, lexFrom_word hwords.1 hends, ih _ hwords.2 hchain]
      simp

theorem IsSplit.cons {token : Token} {rest : List Char} {tokens : List Token}
    (hword : token.IsWord) (hends : token.EndsBefore rest) (hsplit : IsSplit rest tokens) :
    IsSplit (token.lexeme.toList ++ rest) (token :: tokens) := by
  obtain ⟨⟨hwords, hapart⟩, rfl⟩ := hsplit
  have hnext := (endsBefore_joined_iff hwords).mp hends
  exact ⟨⟨List.forall_mem_cons.mpr ⟨hword, hwords⟩, List.isChain_cons.mpr ⟨hnext, hapart⟩⟩, rfl⟩

-- A run is taken for as long as it lasts.
theorem dropWhile_head (p : Char → Bool) (text : List Char) :
    ∀ c ∈ (text.dropWhile p).head?, p c = false := by
  intro c hc
  have hnot := List.head?_dropWhile_not p text
  rw [Option.mem_def.mp hc] at hnot
  exact hnot

theorem find_run {p q : Char → Bool} {c : Char} {rest : List Char} (hc : p c)
    (hsort : ∀ d, p d → q d = false) :
    (c :: rest).find? q = (rest.dropWhile p).find? q := by
  have hnone : (rest.takeWhile p).find? q = none := by
    rw [List.find?_eq_none]
    exact fun d hd => by simp [hsort d (List.mem_takeWhile_imp hd)]
  rw [List.find?_cons_of_neg (by simp [hsort c hc])]
  conv => lhs; rw [← @List.takeWhile_append_dropWhile _ p rest]
  rw [List.find?_append, hnone, Option.none_or]

theorem isWord_of_mem {c : Char} {kind : TokenKind} (hmem : (c, kind) ∈ singles) :
    IsWord ⟨kind, String.singleton c⟩ := by
  obtain ⟨-, -, -, hnumber, hname⟩ := single_cases _ hmem
  unfold IsWord
  split
  · rename_i hkind
    exact absurd hkind hnumber
  · rename_i hkind
    exact absurd hkind hname
  · exact ⟨c, rfl, hmem⟩

theorem endsBefore_single {c : Char} {kind : TokenKind} (hmem : (c, kind) ∈ singles)
    (rest : List Char) : EndsBefore ⟨kind, String.singleton c⟩ rest := by
  obtain ⟨-, -, -, hnumber, hname⟩ := single_cases _ hmem
  exact fun d _ => ⟨fun hboth => hnumber hboth.1, fun hboth => hname hboth.1⟩

theorem exists_isSplit_of_lexFrom {found tokens : List Token} {text : List Char}
    (hlex : lexFrom found text = .ok tokens) :
    ∃ cut, tokens = found.reverse ++ cut ∧ IsSplit text cut := by
  fun_induction lexFrom found text with
  | case1 found =>
      cases hlex
      exact ⟨[], by simp, ⟨by simp, .nil⟩, rfl⟩
  | case2 found c rest hc ih =>
      obtain ⟨cut, rfl, hsplit⟩ := ih hlex
      have hword : IsWord ⟨.number, String.ofList (c :: rest.takeWhile isNumberChar)⟩ :=
        ⟨by simp [← String.toList_inj], mem_run hc⟩
      have hcons := hsplit.cons hword fun d hd => ⟨by simp [dropWhile_head _ _ d hd], by simp⟩
      rw [String.toList_ofList, List.cons_append, List.takeWhile_append_dropWhile] at hcons
      exact ⟨_, by rw [List.reverse_cons, List.append_assoc]; rfl, hcons⟩
  | case3 found c rest hn hc ih =>
      obtain ⟨cut, rfl, hsplit⟩ := ih hlex
      have hword : IsWord ⟨.identifier, String.ofList (c :: rest.takeWhile Text.isLetter)⟩ :=
        ⟨by simp [← String.toList_inj], mem_run hc⟩
      have hcons := hsplit.cons hword fun d hd => ⟨by simp, by simp [dropWhile_head _ _ d hd]⟩
      rw [String.toList_ofList, List.cons_append, List.takeWhile_append_dropWhile] at hcons
      exact ⟨_, by rw [List.reverse_cons, List.append_assoc]; rfl, hcons⟩
  | case4 found c rest hn hl kind hk ih =>
      obtain ⟨cut, rfl, hsplit⟩ := ih hlex
      have hmem := mem_of_singleKind hk
      have hcons := hsplit.cons (isWord_of_mem hmem) (endsBefore_single hmem rest)
      rw [String.toList_singleton] at hcons
      exact ⟨_, by rw [List.reverse_cons, List.append_assoc]; rfl, hcons⟩
  | case5 => cases hlex

-- The cutting stops at the first stray character.
theorem find_of_lexFrom_error {found : List Token} {text : List Char} {error : EvalError}
    (hlex : lexFrom found text = .error error) :
    ∃ c, text.find? isStray = some c ∧ error = .invalidCharacter (String.singleton c) := by
  fun_induction lexFrom found text with
  | case1 => cases hlex
  | case2 found c rest hc ih =>
      rw [find_run hc fun d hd => by simp [isStray, hd]]
      exact ih hlex
  | case3 found c rest hn hc ih =>
      rw [find_run hc fun d hd => by simp [isStray, hd]]
      exact ih hlex
  | case4 found c rest hn hl kind hk ih =>
      rw [List.find?_cons_of_neg (by simp [isStray_eq, isTokenChar, hk])]
      exact ih hlex
  | case5 found c rest hn hl hk =>
      cases hlex
      exact ⟨c, List.find?_cons_of_pos (by simp [isStray_eq, isTokenChar, hn, hl, hk]), rfl⟩

-- No character that a token has is a blank, so that all of a token's text is left.
theorem isBlank_of_mem_joined {tokens : List Token} (hmaximal : Maximal tokens) :
    ∀ c ∈ joined tokens, Text.isBlank c = false := by
  have hlex := lexFrom_joined hmaximal []
  intro c hc
  exact isBlank_of_not_isStray (by rw [isStray_eq, isTokenChar_of_lexFrom hlex c hc]; rfl)

theorem ofText_of_spaced {tokens : List Token} (hmaximal : Maximal tokens) {spaced : String}
    (hspaced : Text.Spaced (joined tokens) spaced.toList) : ofText spaced = .ok tokens := by
  have hcode := Text.dropBlanks_of_spaced hspaced (isBlank_of_mem_joined hmaximal)
  rw [ofText, hcode]
  exact lexFrom_joined hmaximal []

-- A text is cut into the longest tokens that there are, in one way only, or it
-- is rejected for its first stray character. Where its blanks stand is nothing
-- to either.
theorem ofText_longest_match (text : String) :
    let code := Text.dropBlanks text.toList
    (∀ c, code.find? isStray = some c →
        ofText text = .error (.invalidCharacter (String.singleton c))) ∧
      ((∀ c ∈ code, isStray c = false) →
        ∃ tokens, ofText text = .ok tokens ∧ IsSplit code tokens ∧
          ∀ other, IsSplit code other → other = tokens) ∧
      (∀ tokens, Maximal tokens → ∀ spaced : String,
        Text.Spaced (joined tokens) spaced.toList → ofText spaced = .ok tokens) ∧
      ∀ other : String, Text.dropBlanks other.toList = code → ofText other = ofText text := by
  intro code
  refine ⟨?_, ?_, fun tokens hmaximal spaced hspaced => ofText_of_spaced hmaximal hspaced, ?_⟩
  · intro c hc
    cases hlex : ofText text with
    | ok tokens =>
        have hstray : isStray c := List.find?_some hc
        have htoken := isTokenChar_of_lexFrom hlex c (List.mem_of_find?_eq_some hc)
        simp [isStray_eq, htoken] at hstray
    | error error =>
        obtain ⟨d, hd, rfl⟩ := find_of_lexFrom_error hlex
        obtain rfl : c = d := Option.some.inj (hc.symm.trans hd)
        rfl
  · intro hcode
    cases hlex : ofText text with
    | ok tokens =>
        obtain ⟨cut, rfl, hsplit⟩ := exists_isSplit_of_lexFrom hlex
        refine ⟨_, rfl, hsplit, fun other hother => ?_⟩
        have hagain := lexFrom_joined hother.toMaximal []
        rw [hother.joined] at hagain
        exact Except.ok.inj (hagain.symm.trans hlex)
    | error error =>
        obtain ⟨d, hd, -⟩ := find_of_lexFrom_error hlex
        have hstray : isStray d := List.find?_some hd
        simp [hcode d (List.mem_of_find?_eq_some hd)] at hstray
  · intro other hother
    rw [ofText, hother, ofText]

end Token

end Reckoner
