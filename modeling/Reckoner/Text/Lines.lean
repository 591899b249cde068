namespace Reckoner.Text

-- A carriage return, alone or before a line feed, is read as one line feed.
def readNewlines : List Char → List Char
  | [] => []
  | '\r' :: '\n' :: rest => '\n' :: readNewlines rest
  | c :: rest => (if c = '\r' then '\n' else c) :: readNewlines rest

-- The characters that end a line. A carriage return with a line feed after it
-- ends it together with that line feed.
def isLineBreak (c : Char) : Bool :=
  let code := c.toNat
  (0x0A ≤ code && code ≤ 0x0D) || (0x1C ≤ code && code ≤ 0x1E) || code == 0x85 ||
    code == 0x2028 || code == 0x2029

-- `line` holds the characters since the last break, newest first. A text that
-- ends with a break has no empty line after it.
def splitLinesFrom (line : List Char) : List Char → List (List Char)
  | [] => if line.isEmpty then [] else [line.reverse]
  | '\r' :: '\n' :: rest => line.reverse :: splitLinesFrom [] rest
  | c :: rest =>
      if isLineBreak c then line.reverse :: splitLinesFrom [] rest
      else splitLinesFrom (c :: line) rest

def splitLines (text : List Char) : List (List Char) := splitLinesFrom [] text

-- Lines that a terminal hands over: only a line feed ends one, and the last
-- line may lack it.
def inputLinesFrom (line : List Char) : List Char → List String
  | [] => if line.isEmpty then [] else [String.ofList line.reverse]
  | c :: rest =>
      if c = '\n' then String.ofList line.reverse :: inputLinesFrom [] rest
      else inputLinesFrom (c :: line) rest

def inputLines (text : String) : List String := inputLinesFrom [] text.toList

end Reckoner.Text
