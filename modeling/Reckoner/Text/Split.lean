namespace Reckoner.Text

-- The parts between separators. There is always one part more than there are
-- separators, and parts may be empty.
def splitAtChar (separator : Char) : List Char → List (List Char)
  | [] => [[]]
  | c :: rest =>
      match splitAtChar separator rest with
      | [] => [[c]]
      | part :: parts => if c = separator then [] :: part :: parts else (c :: part) :: parts

end Reckoner.Text
