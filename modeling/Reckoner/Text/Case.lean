import Reckoner.Text.Case.Context
import Reckoner.Text.Case.Lower
import Reckoner.Text.Case.Title

namespace Reckoner.Text.Case

-- A capital sigma ends a word when a cased letter stands before it and none
-- after it. `before` is read backwards from the sigma, `after` forwards.
def endsWord (before after : List Char) : Bool :=
  (before.dropWhile isIgnorable).head?.any isCased &&
    !(after.dropWhile isIgnorable).head?.any isCased

def lowerIn (before : List Char) (c : Char) (after : List Char) : List Char :=
  if c = 'Σ' then (if endsWord before after then ['ς'] else ['σ']) else lowerChar c

-- `before` holds the characters already passed, newest first.
def lowerFrom (before : List Char) : List Char → List Char
  | [] => []
  | c :: rest => lowerIn before c rest ++ lowerFrom (c :: before) rest

end Reckoner.Text.Case

namespace Reckoner.Text

def lower (text : String) : String := String.ofList (Case.lowerFrom [] text.toList)

def upper (text : String) : String := String.ofList (text.toList.flatMap Case.upperChar)

def capitalize (text : String) : String :=
  match text.toList with
  | [] => ""
  | c :: rest => String.ofList (Case.titleChar c ++ Case.lowerFrom [c] rest)

end Reckoner.Text
