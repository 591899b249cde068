import Reckoner.Path

namespace Reckoner

namespace Archive

inductive Format
  | zip
  | tarXz
  | sevenZip
  deriving DecidableEq, Repr

namespace Format

def all : List Format := [.zip, .tarXz, .sevenZip]

def label : Format → String
  | .zip => "zip"
  | .tarXz => "tar.xz"
  | .sevenZip => "7z"

def suffix (format : Format) : String := "." ++ format.label

def ofSuffix? (suffix : String) : Option Format := all.find? (·.suffix == suffix)

end Format

-- Only one format has a suffix of two parts.
def suffixOf (path : Path) : String :=
  let suffixes := Path.suffixes path.name
  if suffixes.drop (suffixes.length - 2) = [".tar".toList, ".xz".toList] then ".tar.xz"
  else String.ofList (Path.suffix path.name)

-- A member without content is a folder or another thing that is no file.
structure Member where
  name : String
  content : Option (List UInt8)
  deriving DecidableEq, Repr

def Member.isText (member : Member) : Bool := ".txt".toList.isSuffixOf member.name.toList

-- A tar archive is asked for the files among its members, the others for all names.
def Member.isCandidate (member : Member) : Format → Bool
  | .tarXz => member.content.isSome && member.isText
  | _ => member.isText

-- The last member that is named like the given one.
def latest (members : List Member) (member : Member) : Member :=
  (members.reverse.find? (·.name == member.name)).getD member

end Archive

-- The bytes are those of the whole file.
structure Archive where
  format : Archive.Format
  bytes : List UInt8
  members : List Archive.Member
  deriving DecidableEq, Repr

def Archive.first? (archive : Archive) : Option Archive.Member :=
  archive.members.find? (·.isCandidate archive.format)

end Reckoner
