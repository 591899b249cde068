import Reckoner.Outcome.Line
import Reckoner.Proofs.Decimal.Text
import Reckoner.Proofs.Faults
import Reckoner.Proofs.Text.Cut
import Reckoner.Proofs.Text.Lines

namespace Reckoner

open Text (Unbroken cutLast?)

-- A dash would begin the mark of an error, a line break would end the line.
def Text.IsPlain (text : List Char) : Prop := '-' ∉ text ∧ Unbroken text

instance (text : List Char) : Decidable (Text.IsPlain text) :=
  inferInstanceAs (Decidable ('-' ∉ text ∧ Unbroken text))

namespace Text

theorem IsPlain.append {first second : List Char} (hfirst : IsPlain first)
    (hsecond : IsPlain second) : IsPlain (first ++ second) :=
  ⟨by simp [hfirst.1, hsecond.1], hfirst.2.append hsecond.2⟩

theorem isPlain_singleton {c : Char} (hdash : c ≠ '-') (hbreak : isLineBreak c = false) :
    IsPlain [c] :=
  ⟨by simpa using hdash.symm, fun d hd => by rwa [List.mem_singleton.mp hd]⟩

theorem isPlain_flatMap {text : List Char} {f : Char → List Char}
    (hf : ∀ c ∈ text, IsPlain (f c)) : IsPlain (text.flatMap f) := by
  induction text with
  | nil => exact ⟨by simp, fun _ hc => by simp at hc⟩
  | cons c rest ih =>
      simp only [List.forall_mem_cons] at hf
      exact hf.1.append (ih hf.2)

theorem isPlain_hexDigits (width code : Nat) : IsPlain (Quoted.hexDigits width code) := by
  have hdigit : ∀ n < 16, IsPlain [Nat.digitChar n] := by decide
  induction width generalizing code with
  | zero => exact ⟨by simp [Quoted.hexDigits], fun _ hc => by simp [Quoted.hexDigits] at hc⟩
  | succ width ih => exact (ih _).append (hdigit _ (Nat.mod_lt _ (by decide)))

theorem isPlain_escape {quote c : Char} (hc : IsPlain [c]) : IsPlain (Quoted.escape quote c) := by
  have hslash : IsPlain ['\\'] := by decide
  unfold Quoted.escape
  split
  · exact hslash.append hc
  · split
    · decide
    · split
      · decide
      · split
        · decide
        · split
          · exact hc
          · split
            · exact (show IsPlain ['\\', 'x'] by decide).append (isPlain_hexDigits 2 _)
            · split
              · exact (show IsPlain ['\\', 'u'] by decide).append (isPlain_hexDigits 4 _)
              · exact (show IsPlain ['\\', 'U'] by decide).append (isPlain_hexDigits 8 _)

-- Quotes and escapes bring in nothing that the text did not have.
theorem isPlain_quoted {text : String} (htext : ∀ c ∈ text.toList, IsPlain [c]) :
    IsPlain (quoted text).toList := by
  have hmark : IsPlain [Quoted.mark text.toList] := by
    unfold Quoted.mark
    split <;> decide
  rw [quoted, String.toList_ofList]
  exact (hmark.append (isPlain_flatMap fun c hc => isPlain_escape (htext c hc))).append hmark

end Text

namespace EvalError

variable {error : EvalError}

theorem message_invalidCharacter (shown : String) :
    message (.invalidCharacter shown) = "Invalid character in expression: " ++ shown := rfl

theorem message_numberFormat (lexeme : String) :
    message (.numberFormat lexeme) = "Invalid number format: " ++ Text.quoted lexeme := rfl

-- Most messages are the same for every text. The others show a character of the
-- text or a number in it.
theorem message_cases (hordinary : error.Ordinary) (hkind : error.kind ≠ .unknownOperator) :
    (error.message, error.kind) ∈ ErrorKind.messages ∨
      (∃ c, error = .invalidCharacter (String.singleton c) ∧ Text.isBlank c = false ∧ c ≠ '-') ∨
      ∃ lexeme, error = .numberFormat lexeme ∧
        ∀ c ∈ lexeme.toList, Token.isNumberChar c ∧ Text.isBlank c = false := by
  cases error with
  | invalidCharacter shown =>
      obtain ⟨c, rfl, hblank, hdash⟩ := hordinary
      exact .inr (.inl ⟨c, rfl, hblank, hdash⟩)
  | numberFormat lexeme => exact .inr (.inr ⟨lexeme, rfl, hordinary⟩)
  | malformedFunctionCall name =>
      obtain ⟨function, rfl⟩ := hordinary
      left
      cases function <;> decide +kernel
  | arity name expected =>
      obtain ⟨function, rfl, rfl⟩ := hordinary
      left
      cases function <;> decide +kernel
  | domain reason =>
      obtain rfl := hordinary
      left
      decide +kernel
  | unknownOperator symbol => exact absurd rfl hkind
  | _ =>
      left
      decide +kernel

theorem isPlain_messages : ∀ entry ∈ ErrorKind.messages, Text.IsPlain entry.1.toList := by
  decide +kernel

theorem isPlain_message (hordinary : error.Ordinary) (hkind : error.kind ≠ .unknownOperator) :
    Text.IsPlain error.message.toList := by
  rcases message_cases hordinary hkind with hfixed | ⟨c, rfl, hblank, hdash⟩ | ⟨lexeme, rfl, hlexeme⟩
  · exact isPlain_messages _ hfixed
  · have hstart : Text.IsPlain "Invalid character in expression: ".toList := by decide
    have hc := Text.isPlain_singleton hdash (Text.isLineBreak_of_isBlank_false hblank)
    simpa [message_invalidCharacter] using hstart.append hc
  · have hstart : Text.IsPlain "Invalid number format: ".toList := by decide
    rw [message_numberFormat, String.toList_append]
    refine hstart.append (Text.isPlain_quoted fun c hc => ?_)
    obtain ⟨hnumber, hblank⟩ := hlexeme c hc
    refine Text.isPlain_singleton ?_ (Text.isLineBreak_of_isBlank_false hblank)
    rintro rfl
    exact absurd hnumber (by decide)

theorem ofMessage_messages :
    ∀ entry ∈ ErrorKind.messages, ErrorKind.ofMessage? entry.1 = some entry.2 := by
  decide +kernel

theorem lookup_messages_eq_none {start rest : String}
    (hstart : ∀ entry ∈ ErrorKind.messages, ¬start.toList <+: entry.1.toList) :
    ErrorKind.messages.lookup (start ++ rest) = none := by
  rw [List.lookup_eq_none_iff]
  intro entry hentry
  rw [bne_iff_ne]
  intro heq
  apply hstart entry hentry
  rw [← heq, String.toList_append]
  exact List.prefix_append _ _

-- No message of one kind is that of another, or the beginning of another's.
theorem ofMessage_message (hordinary : error.Ordinary) (hkind : error.kind ≠ .unknownOperator) :
    ErrorKind.ofMessage? error.message = some error.kind := by
  rcases message_cases hordinary hkind with hfixed | ⟨c, rfl, -⟩ | ⟨lexeme, rfl, -⟩
  · exact ofMessage_messages _ hfixed
  · have hnone := @lookup_messages_eq_none "Invalid character in expression: " (String.singleton c)
      (by decide +kernel)
    rw [message_invalidCharacter, ErrorKind.ofMessage?, hnone]
    simp [kind]
  · have hnone := @lookup_messages_eq_none "Invalid number format: " (Text.quoted lexeme)
      (by decide +kernel)
    rw [message_numberFormat, ErrorKind.ofMessage?, hnone]
    simp [kind]

end EvalError

namespace Outcome

theorem evaluate_cases (expression : String) :
    (∃ value, valueOf expression = .ok value ∧ evaluate expression = .result expression value) ∨
      ∃ error : EvalError, error.Ordinary ∧ error.kind ≠ .unknownOperator ∧
        evaluate expression = .rejected expression error := by
  rcases valueOf_cases expression with ⟨value, hvalue⟩ | ⟨error, hordinary, hkind, hvalue⟩
  · exact .inl ⟨value, hvalue, by simp [evaluate, attempt, hvalue]⟩
  · exact .inr ⟨error, hordinary, hkind, by simp [evaluate, attempt, hvalue]⟩

theorem ofLine_failure {expression message : String} {kind : ErrorKind}
    (hmessage : '-' ∉ message.toList) (hkind : ErrorKind.ofMessage? message = some kind) :
    ofLine? (expression ++ " -> ERROR: " ++ message) = some (.failure expression kind message) := by
  have hmark := @Text.cutLast_mark message.toList ' ' '-' "> ERROR: ".toList (by decide) (by decide)
    hmessage
  have hcut := Text.cutLast_append hmark expression.toList
  have hline : (expression ++ " -> ERROR: " ++ message).toList =
      expression.toList ++ (' ' :: '-' :: "> ERROR: ".toList ++ message.toList) := by
    simp
  have harrow : " -> ERROR: ".toList = ' ' :: '-' :: "> ERROR: ".toList := by decide
  simp only [ofLine?, hline, harrow, hcut, String.ofList_toList, hkind, Option.map_some]

theorem ofLine_result {expression : String} {value : Binary64} (harrow : '>' ∉ expression.toList) :
    ofLine? (entry expression value) = some (.result expression value) := by
  have hwritten := Binary64.allWritten_text value
  have htext {c : Char} (hc : ¬Decimal.IsWritten c) : c ∉ value.text.toList :=
    fun hmem => hc (hwritten c hmem)
  have hmark := @Text.cutLast_mark value.text.toList ' ' '=' [' '] (by decide) (by decide)
    (htext (by decide))
  have hcut := Text.cutLast_append hmark expression.toList
  have hline : (entry expression value).toList =
      expression.toList ++ (' ' :: '=' :: [' '] ++ value.text.toList) := by
    simp [entry]
  have hequals : " = ".toList = ' ' :: '=' :: [' '] := by decide
  have hnone : cutLast? " -> ERROR: ".toList (entry expression value).toList = none := by
    apply @Text.cutLast_eq_none _ _ '>' (by decide)
    rw [hline]
    simpa [harrow] using htext (c := '>') (by decide)
  simp only [ofLine?, hnone]
  simp only [hline, hequals, hcut, Option.bind_some, String.ofList_toList, Binary64.read_text,
    Option.map_some]

-- A line of a results file tells the whole outcome.
theorem ofLine_line (expression : String) :
    ofLine? (evaluate expression).line = some (evaluate expression) := by
  rcases evaluate_cases expression with ⟨value, hvalue, hresult⟩ | ⟨error, hordinary, hkind, hresult⟩
  · have harrow : '>' ∉ expression.toList := fun hmem =>
      absurd (isTokenChar_of_valueOf hvalue _ hmem) (by decide)
    rw [hresult]
    exact ofLine_result harrow
  · rw [hresult]
    exact ofLine_failure (error.isPlain_message hordinary hkind).1
      (error.ofMessage_message hordinary hkind)

theorem isLineBreak_of_isWritten {c : Char} (hc : Decimal.IsWritten c) :
    Text.isLineBreak c = false := by
  have hbounds := Decimal.toNat_of_isWritten hc
  simp [Text.isLineBreak]
  omega

-- The line of an expression is as unbroken as the expression.
theorem unbroken_line {expression : String} (hexpression : Unbroken expression.toList) :
    Unbroken (evaluate expression).line.toList := by
  rcases evaluate_cases expression with ⟨value, hvalue, hresult⟩ | ⟨error, hordinary, hkind, hresult⟩
  · have hequals : Unbroken " = ".toList := by decide
    have htext : Unbroken value.text.toList := fun c hc =>
      isLineBreak_of_isWritten (Binary64.allWritten_text value c hc)
    rw [hresult]
    simpa [line, entry] using (hexpression.append hequals).append htext
  · have harrow : Unbroken " -> ERROR: ".toList := by decide
    have hmessage := (error.isPlain_message hordinary hkind).2
    rw [hresult]
    simpa [line, rejected] using (hexpression.append harrow).append hmessage

end Outcome

end Reckoner
