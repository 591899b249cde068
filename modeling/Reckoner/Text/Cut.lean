namespace Reckoner.Text

-- Parts a text at the last place where a mark stands in it.
def cutLast? (mark : List Char) : List Char → Option (List Char × List Char)
  | [] => none
  | c :: rest =>
      match cutLast? mark rest with
      | some (front, back) => some (c :: front, back)
      | none =>
          if mark.isPrefixOf (c :: rest) then some ([], (c :: rest).drop mark.length) else none

end Reckoner.Text
