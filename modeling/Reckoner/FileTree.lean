import Reckoner.Host
import Reckoner.Text.Utf8

namespace Reckoner

inductive FileContent
  | text (value : String)
  | bytes (value : List UInt8)
  | archive (packed : Archive)
  deriving DecidableEq, Repr

-- What stands in the file.
def FileContent.raw : FileContent → List UInt8
  | .text value => Text.Utf8.encode value.toList
  | .bytes value => value
  | .archive packed => packed.bytes

inductive FileEntry
  | folder
  | file (content : FileContent)
  deriving DecidableEq, Repr

-- Entries by their places: the names that lead there from the working folder,
-- or from the root if the first of them is a slash. The host is what the files are on.
structure FileTree where
  entries : List (List String × FileEntry)
  host : Host := Host.ideal

inductive FileError
  | noSuchFile
  | notFolder
  | isFolder
  | tooLong
  | nullCharacter
  deriving DecidableEq, Repr

def FileError.message (path : Path) : FileError → String
  | .noSuchFile => "[Errno 2] No such file or directory: " ++ Text.quoted path.text
  | .notFolder => "[Errno 20] Not a directory: " ++ Text.quoted path.text
  | .isFolder => "[Errno 21] Is a directory: " ++ Text.quoted path.text
  | .tooLong => "[Errno 36] File name too long: " ++ Text.quoted path.text
  | .nullCharacter => "embedded null byte"

namespace FileTree

def empty : FileTree := { entries := [] }

-- The working folder is always there, and so are the folders above it.
def entry? (tree : FileTree) (place : List String) : Option FileEntry :=
  if place.all (· == "..") || place == ["/"] then some .folder else tree.entries.lookup place

def put (tree : FileTree) (place : List String) (entry : FileEntry) : FileTree :=
  { tree with entries := (place, entry) :: tree.entries.filter (·.1 ≠ place) }

def origin (path : Path) : List String := if path.root = "" then [] else ["/"]

-- Two dots lead to the folder above. The root has none above it.
def enter (place : List String) (part : String) : List String :=
  if part ≠ ".." then place ++ [part]
  else if place.all (· == "..") then place ++ [part]
  else if place = ["/"] then place
  else place.dropLast

-- The most bytes that a name and a whole path may have.
def nameLimit : Nat := 255

def pathLimit : Nat := 4095

-- Every place on the way but the last has to be a folder, and a name is
-- measured only in a folder that is there.
def locateFrom (tree : FileTree) (place : List String) : List String →
    Except FileError (List String)
  | [] => .ok place
  | part :: rest =>
      match tree.entry? place with
      | none => .error .noSuchFile
      | some (.file _) => .error .notFolder
      | some .folder =>
          if nameLimit < part.utf8ByteSize then .error .tooLong
          else locateFrom tree (enter place part) rest

def locate (tree : FileTree) (path : Path) : Except FileError (List String) :=
  if path.parts.any (·.toList.contains (Char.ofNat 0)) then .error .nullCharacter
  else if pathLimit < path.text.utf8ByteSize then .error .tooLong
  else locateFrom tree (origin path) path.parts

def content (tree : FileTree) (path : Path) : Except FileError FileContent :=
  match tree.locate path with
  | .error error => .error error
  | .ok place =>
      match tree.entry? place with
      | none => .error .noSuchFile
      | some .folder => .error .isFolder
      | some (.file content) => .ok content

def isFile (tree : FileTree) (path : Path) : Bool :=
  match tree.content path with
  | .ok _ => true
  | .error _ => false

def isOverlong (tree : FileTree) (path : Path) : Bool :=
  match tree.locate path with
  | .error .tooLong => true
  | _ => false

-- The place of a file that can be written, whether it is there or not.
def writable (tree : FileTree) (path : Path) : Except FileError (List String) :=
  match tree.locate path with
  | .error error => .error error
  | .ok place => if tree.entry? place = some .folder then .error .isFolder else .ok place

-- Opens a file for writing, which leaves it without any text.
def clear (tree : FileTree) (place : List String) : FileTree := tree.put place (.file (.text ""))

-- Writes behind what stands in an open file.
def extend (tree : FileTree) (place : List String) (more : String) : FileTree :=
  match tree.entry? place with
  | some (.file (.text written)) => tree.put place (.file (.text (written ++ more)))
  | _ => tree

-- Adds an entry and the folders above it.
def add (tree : FileTree) (parts : List String) (entry : FileEntry) : FileTree :=
  let folders := ((List.range parts.length).drop 1).map parts.take
  let tree := folders.foldl (fun tree place => tree.put place .folder) tree
  if parts = [] then tree else tree.put parts entry

-- Files of the later tree that the earlier one lacks or has otherwise.
def changes (before after : FileTree) : List (List String × FileContent) :=
  after.entries.filterMap fun (place, entry) =>
    match entry with
    | .folder => none
    | .file content =>
        match before.entry? place with
        | some (.file old) => if old.raw = content.raw then none else some (place, content)
        | _ => some (place, content)

def nameOf (place : List String) : String :=
  match place with
  | "/" :: rest => "/" ++ "/".intercalate rest
  | _ => "/".intercalate place

def isInside (place : List String) : Bool :=
  match place with
  | [] => true
  | first :: _ => first ≠ ".." && first ≠ "/"

-- The changes below the working folder, by the names of the files.
def written (before after : FileTree) : List (String × FileContent) :=
  ((changes before after).filter fun (place, _) => isInside place).map
    fun (place, content) => (nameOf place, content)

end FileTree

end Reckoner
