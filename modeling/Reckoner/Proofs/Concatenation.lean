import Reckoner.Proofs.Loading
import Reckoner.Proofs.Results
import Reckoner.Proofs.Text.Blank

namespace Reckoner

namespace Text

-- No line is left open at the end.
def EndsLine (text : List Char) : Prop := ∀ c ∈ text.getLast?, isLineBreak c

instance (text : List Char) : Decidable (EndsLine text) :=
  decidable_of_iff (text.getLast?.all isLineBreak) (by cases h : text.getLast? <;> simp [EndsLine, h])

variable {text : List Char} {c : Char}

theorem splitLinesFrom_cons (hc : c ≠ '\r') (line text : List Char) :
    splitLinesFrom line (c :: text) =
      if isLineBreak c then line.reverse :: splitLinesFrom [] text
      else splitLinesFrom (c :: line) text := by
  rw [splitLinesFrom]
  exact fun _ hreturn _ => hc hreturn

end Text

namespace Batch

open Text (isBlank isLineBreak stripChars splitLinesFrom readNewlines EndsLine Unbroken)

-- What there is on a line. Blanks are nothing.
def expressionIn (line : List Char) : List String :=
  if stripChars line = [] then [] else [String.ofList (stripChars line)]

@[simp] theorem expressionIn_nil : expressionIn [] = [] := rfl

section

variable {first line blanks : List Char} {c : Char}

theorem expressionsOf_eq_flatMap (text : List Char) :
    expressionsOf text = (Text.splitLines (readNewlines text)).flatMap expressionIn := by
  unfold expressionsOf
  induction Text.splitLines (readNewlines text) with
  | nil => rfl
  | cons line rest ih =>
      rw [List.flatMap_cons, ← ih, expressionIn]
      by_cases hline : stripChars line = []
      · simp [hline]
      · simp [hline]

theorem modifyHead_self (lines : List (List Char)) : lines.modifyHead (fun line => line) = lines :=
  congrFun List.modifyHead_id lines

-- A line feed behind a carriage return ends one more line at most, and that has
-- nothing on it. So every character that breaks a line may be taken by itself.
theorem flatMap_splitLinesFrom (line text : List Char) :
    (splitLinesFrom line (readNewlines text)).flatMap expressionIn =
      ((text.splitOnP isLineBreak).modifyHead (line.reverse ++ ·)).flatMap expressionIn := by
  have hfeed : isLineBreak '\n' = true := by decide
  have hreturn : isLineBreak '\r' = true := by decide
  fun_induction readNewlines text generalizing line with
  | case1 =>
      cases line with
      | nil => rfl
      | cons c line => simp [splitLinesFrom]
  | case2 rest ih =>
      rw [Text.splitLinesFrom_cons (by decide), if_pos hfeed, List.flatMap_cons, ih []]
      simp [List.splitOnP_cons_eq_if_modifyHead, hfeed, hreturn, modifyHead_self]
  | case3 c rest _ ih =>
      by_cases hc : c = '\r'
      · rw [if_pos hc, Text.splitLinesFrom_cons (by decide), if_pos hfeed, List.flatMap_cons, ih []]
        simp [List.splitOnP_cons_eq_if_modifyHead, hc, hreturn, modifyHead_self]
      · rw [if_neg hc, Text.splitLinesFrom_cons hc, List.splitOnP_cons_eq_if_modifyHead]
        cases hbreak : isLineBreak c with
        | true => simp [ih [], modifyHead_self]
        | false => simp [ih (c :: line), List.modifyHead_modifyHead, Function.comp_def]

theorem expressionsOf_eq (text : List Char) :
    expressionsOf text = (text.splitOnP isLineBreak).flatMap expressionIn := by
  have hlines := flatMap_splitLinesFrom [] text
  rw [expressionsOf_eq_flatMap, Text.splitLines, hlines]
  simp [modifyHead_self]

theorem expressionsOf_break (hc : isLineBreak c) (first second : List Char) :
    expressionsOf (first ++ c :: second) = expressionsOf first ++ expressionsOf second := by
  simp only [expressionsOf_eq, List.splitOnP_append_cons first second hc, List.flatMap_append]

-- Where no line runs over the seam of two texts, their expressions come one after
-- the other.
theorem expressionsOf_append (hfirst : EndsLine first) (second : List Char) :
    expressionsOf (first ++ second) = expressionsOf first ++ expressionsOf second := by
  rcases List.eq_nil_or_concat first with rfl | ⟨front, c, rfl⟩
  · rfl
  · rw [List.concat_eq_append] at hfirst ⊢
    have hc : isLineBreak c := hfirst c (by simp)
    rw [List.append_assoc, List.singleton_append, expressionsOf_break hc, expressionsOf_break hc]
    simp [expressionsOf_eq]

theorem expressionsOf_unbroken (hline : Unbroken line) : expressionsOf line = expressionIn line := by
  rw [expressionsOf_eq, List.splitOnP_eq_singleton hline, List.flatMap_singleton]

theorem expressionsOf_blanks_append (hblanks : ∀ c ∈ blanks, isBlank c) (text : List Char) :
    expressionsOf (blanks ++ text) = expressionsOf text := by
  induction blanks with
  | nil => rfl
  | cons c blanks ih =>
      simp only [List.forall_mem_cons] at hblanks
      rw [← ih hblanks.2, List.cons_append]
      cases hc : isLineBreak c with
      | true => exact expressionsOf_break hc [] (blanks ++ text)
      | false =>
          rw [expressionsOf_eq, expressionsOf_eq, List.splitOnP_cons_eq_if_modifyHead, hc]
          cases (blanks ++ text).splitOnP isLineBreak with
          | nil => rfl
          | cons line rest => simp [expressionIn, Text.stripChars_cons hblanks.1]

theorem expressionsOf_append_blanks (hline : Unbroken line) (hblanks : ∀ c ∈ blanks, isBlank c) :
    expressionsOf (line ++ blanks) = expressionIn line := by
  induction blanks generalizing line with
  | nil => rw [List.append_nil, expressionsOf_unbroken hline]
  | cons c blanks ih =>
      simp only [List.forall_mem_cons] at hblanks
      cases hc : isLineBreak c with
      | true =>
          have hnone := expressionsOf_blanks_append hblanks.2 []
          rw [List.append_nil] at hnone
          rw [expressionsOf_break hc, expressionsOf_unbroken hline, hnone]
          simp [expressionsOf_eq]
      | false =>
          have hlonger : Unbroken (line ++ [c]) := hline.append (by simpa [Unbroken] using hc)
          have happend := ih hlonger hblanks.2
          rw [List.append_assoc, List.singleton_append] at happend
          rw [happend, expressionIn, expressionIn, Text.stripChars_concat hblanks.1]

end

-- An expression with what there may be around it: blanks of any kind, line breaks
-- among them.
structure Row where
  before : List Char
  body : List Char
  after : List Char

def Row.text (row : Row) : List Char := row.before ++ row.body ++ row.after

structure Row.Proper (row : Row) : Prop where
  before : ∀ c ∈ row.before, isBlank c
  body : Unbroken row.body
  after : ∀ c ∈ row.after, isBlank c

theorem Row.Proper.expressionsOf_text {row : Row} (h : row.Proper) :
    expressionsOf row.text = expressionIn row.body := by
  rw [Row.text, List.append_assoc, expressionsOf_blanks_append h.before,
    expressionsOf_append_blanks h.body h.after]

theorem expressionsOf_rows {rows : List Row} {last : Row}
    (hrows : ∀ row ∈ rows, row.Proper ∧ EndsLine row.text) (hlast : last.Proper) :
    expressionsOf (rows.flatMap Row.text ++ last.text) =
      (rows ++ [last]).flatMap fun row => expressionIn row.body := by
  induction rows with
  | nil => simp [hlast.expressionsOf_text]
  | cons row rows ih =>
      simp only [List.forall_mem_cons] at hrows
      rw [List.flatMap_cons, List.append_assoc, expressionsOf_append hrows.1.2,
        hrows.1.1.expressionsOf_text, ih hrows.2]
      rfl

-- The input is a text file with the given text, and the results can be written.
structure Job.Takes (job : Job) (text : List Char) : Prop where
  suffix : Path.suffix job.batch.input.name = ".txt".toList
  content : ∃ content, job.files.content job.batch.input = .ok content ∧
    textOf content.raw = .ok text
  writable : job.files.writable job.batch.output = .ok job.place
  writes : job.files.host.Writes

theorem Job.Takes.delivers {job : Job} {text : List Char} (h : job.Takes text) :
    job.Delivers ((expressionsOf text).map evaluate)
      (resultsText ((expressionsOf text).map evaluate)) := by
  obtain ⟨content, hcontent, htext⟩ := h.content
  have hload : job.batch.load job.files = .ok (expressionsOf text) := by
    simp only [load, hcontent, textAt, if_pos h.suffix, htext, Except.map]
  exact delivers_of_load hload h.writable h.writes

theorem textOf_append {bytes more : List UInt8} {first second : List Char}
    (hfirst : textOf bytes = .ok first) (hsecond : textOf more = .ok second) :
    textOf (bytes ++ more) = .ok (first ++ second) := by
  rw [textOf_eq_ok_iff] at hfirst hsecond ⊢
  rw [List.flatMap_append, hfirst, hsecond]

-- The results of two texts, one behind the other, are those of the first and then
-- those of the second, if no line runs over the seam; whole files may be joined byte
-- by byte. So an expression has the outcome that it has alone, in the order of the
-- lines, whatever breaks the lines and whatever blanks stand around them.
theorem results_append :
    (∀ (first second : List Char) (one other both : Job), EndsLine first → one.Takes first →
      other.Takes second → both.Takes (first ++ second) →
      ∃ outcomes others text rest, one.Delivers outcomes text ∧ other.Delivers others rest ∧
        both.Delivers (outcomes ++ others) (text ++ rest)) ∧
    (∀ (bytes more : List UInt8) (first second : List Char), textOf bytes = .ok first →
      textOf more = .ok second → textOf (bytes ++ more) = .ok (first ++ second)) ∧
    ∀ (rows : List Row) (last : Row) (job : Job),
      (∀ row ∈ rows, row.Proper ∧ EndsLine row.text) → last.Proper →
      job.Takes (rows.flatMap Row.text ++ last.text) →
      let outcomes := ((rows ++ [last]).flatMap fun row => expressionIn row.body).map evaluate
      job.Delivers outcomes (resultsText outcomes) := by
  refine ⟨fun first second one other both hfirst hone hother hboth => ?_,
    fun bytes more first second => textOf_append, fun rows last job hrows hlast hjob => ?_⟩
  · have hdelivers := hboth.delivers
    rw [expressionsOf_append hfirst, List.map_append, resultsText_append] at hdelivers
    exact ⟨_, _, _, _, hone.delivers, hother.delivers, hdelivers⟩
  · have hdelivers := hjob.delivers
    rwa [expressionsOf_rows hrows hlast] at hdelivers

-- A carriage return ends the first text, and the line feed of the second one joins it.
theorem results_append_return :
    let sums : Path := ⟨"", ["sums.txt"]⟩
    let results : Path := ⟨"", ["results.txt"]⟩
    let job (bytes : List UInt8) : Job :=
      ⟨{ entries := [(["sums.txt"], .file (.bytes bytes))] }, ⟨sums, results⟩, ["results.txt"]⟩
    let bytes : List UInt8 := [0x31, 0x2B, 0x31, 0x0D]
    let more : List UInt8 := [0x0A, 0x20, 0x32, 0x2F, 0x30]
    let first := ['1', '+', '1', '\r']
    let second := ['\n', ' ', '2', '/', '0']
    let row : Row := ⟨[], ['1', '+', '1'], ['\r', '\n']⟩
    let last : Row := ⟨[' '], ['2', '/', '0'], []⟩
    EndsLine first ∧ (job bytes).Takes first ∧ (job more).Takes second ∧
      (job (bytes ++ more)).Takes (first ++ second) ∧ (row.Proper ∧ EndsLine row.text) ∧
      last.Proper ∧
      (∃ outcomes others text rest, (job bytes).Delivers outcomes text ∧
        (job more).Delivers others rest ∧
        (job (bytes ++ more)).Delivers (outcomes ++ others) (text ++ rest)) ∧
      (job (bytes ++ more)).Delivers [evaluate "1+1", evaluate "2/0"]
        (resultsText [evaluate "1+1", evaluate "2/0"]) := by
  intro sums results job bytes more first second row last
  obtain ⟨hseam, hbytes, hrows⟩ := results_append
  have hends : EndsLine first := by decide +kernel
  have hsuffix : Path.suffix sums.name = ".txt".toList := by decide +kernel
  have htake (bytes : List UInt8) (text : List Char) (htext : textOf bytes = .ok text) :
      (job bytes).Takes text :=
    ⟨hsuffix, ⟨.bytes bytes, rfl, htext⟩, rfl, Host.writes_ideal⟩
  have hfirst : textOf bytes = .ok first := by decide +kernel
  have hsecond : textOf more = .ok second := by decide +kernel
  have hboth := htake _ _ (hbytes bytes more first second hfirst hsecond)
  have hrow : row.Proper ∧ EndsLine row.text :=
    ⟨⟨by simp [row], by decide +kernel, List.all_eq_true.mp (by decide +kernel)⟩,
      by decide +kernel⟩
  have hlast : last.Proper :=
    ⟨List.all_eq_true.mp (by decide +kernel), by decide +kernel, by simp [last]⟩
  have hexpressions : ([row] ++ [last]).flatMap (fun row => expressionIn row.body) =
      ["1+1", "2/0"] := by decide +kernel
  have hdelivers := hrows [row] last (job (bytes ++ more)) (by simpa using hrow) hlast hboth
  simp only [hexpressions] at hdelivers
  exact ⟨hends, htake _ _ hfirst, htake _ _ hsecond, hboth, hrow, hlast,
    hseam first second _ _ _ hends (htake _ _ hfirst) (htake _ _ hsecond) hboth, hdelivers⟩

end Batch

end Reckoner
