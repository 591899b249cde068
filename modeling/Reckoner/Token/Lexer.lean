import Reckoner.Operator
import Reckoner.Text.Blank
import Reckoner.Text.Digit
import Reckoner.Text.Letter
import Reckoner.Token.Basic

namespace Reckoner.Token

def isNumberChar (c : Char) : Bool := Text.isDigit c || c == '.'

-- The tokens that are always one character long.
def singleKind? (c : Char) : Option TokenKind :=
  if c = '(' then some .bracketOpen
  else if c = ')' then some .bracketClose
  else if c = ',' then some .comma
  else if (Operator.ofSymbol? (String.singleton c)).isSome then some .operator
  else none

private theorem length_dropWhile_le (p : Char → Bool) (text : List Char) :
    (text.dropWhile p).length ≤ text.length := by
  induction text with
  | nil => simp
  | cons c rest ih =>
      rw [List.dropWhile_cons]
      split
      · exact Nat.le_succ_of_le ih
      · exact Nat.le_refl _

-- Runs of number characters and runs of letters are taken as long as they
-- last. `found` holds the tokens already cut off, newest first.
def lexFrom (found : List Token) (text : List Char) : Except EvalError (List Token) :=
  match text with
  | [] => .ok found.reverse
  | c :: rest =>
      if isNumberChar c then
        lexFrom (⟨.number, String.ofList (c :: rest.takeWhile isNumberChar)⟩ :: found)
          (rest.dropWhile isNumberChar)
      else if Text.isLetter c then
        lexFrom (⟨.identifier, String.ofList (c :: rest.takeWhile Text.isLetter)⟩ :: found)
          (rest.dropWhile Text.isLetter)
      else match singleKind? c with
        | some kind => lexFrom (⟨kind, String.singleton c⟩ :: found) rest
        | none => .error (.invalidCharacter (String.singleton c))
  termination_by text.length
  decreasing_by
    · exact Nat.lt_succ_of_le (length_dropWhile_le _ _)
    · exact Nat.lt_succ_of_le (length_dropWhile_le _ _)
    · exact Nat.lt_succ_self _

-- Blanks are dropped before anything else, so that they part no number and no name.
def ofText (text : String) : Except EvalError (List Token) :=
  lexFrom [] (Text.dropBlanks text.toList)

end Reckoner.Token
