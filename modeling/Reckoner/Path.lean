import Reckoner.Text.Split

namespace Reckoner

-- A path without empty and idle parts. The root is empty for a relative path,
-- and only two slashes at the start, not more, are a root of their own.
structure Path where
  root : String
  parts : List String
  deriving DecidableEq, Repr

namespace Path

def rootOf : List Char → String
  | ['/', '/'] => "//"
  | '/' :: '/' :: c :: _ => if c = '/' then "/" else "//"
  | '/' :: _ => "/"
  | _ => ""

def ofString (text : String) : Path where
  root := rootOf text.toList
  parts := ((Text.splitAtChar '/' text.toList).map String.ofList).filter
    fun part => part ≠ "" && part ≠ "."

def text (path : Path) : String :=
  if path.root = "" && path.parts.isEmpty then "."
  else path.root ++ "/".intercalate path.parts

-- A path that begins at the root takes the place of the one that it is joined to.
def join (path : Path) (text : String) : Path :=
  let added := ofString text
  if added.root = "" then { path with parts := path.parts ++ added.parts } else added

def name (path : Path) : List Char := (path.parts.getLast?.map String.toList).getD []

-- What follows the last dot, with that dot, unless the dot is the first or the
-- last character.
def suffix (name : List Char) : List Char :=
  let after := (name.reverse.takeWhile (· ≠ '.')).reverse
  match name.reverse.dropWhile (· ≠ '.') with
  | _ :: _ :: _ => if after.isEmpty then [] else '.' :: after
  | _ => []

-- All parts after the first, each with the dot before it. Dots at the start
-- part nothing, and a dot at the end leaves no suffix at all.
def suffixes (name : List Char) : List (List Char) :=
  if name.getLast? = some '.' then []
  else ((Text.splitAtChar '.' (name.dropWhile (· = '.'))).drop 1).map ('.' :: ·)

def withName? (path : Path) (name : List Char) : Option Path :=
  if path.name.isEmpty then none
  else some { path with parts := path.parts.dropLast ++ [String.ofList name] }

-- The dots of the suffixes become underscores, so that the new suffix is the only one.
def resultsName (name : List Char) : List Char :=
  let tail := (suffixes name).flatten
  name.take (name.length - tail.length) ++ tail.map (fun c => if c = '.' then '_' else c) ++
    "_results.txt".toList

-- Results go to the folder of the input.
def results? (path : Path) : Option Path := path.withName? (resultsName path.name)

end Path

end Reckoner
