import Reckoner.Archive

namespace Reckoner

-- The part of a text that got into the file before the write failed, and what the
-- system says of it.
structure WriteFault where
  written : String
  message : String
  deriving DecidableEq, Repr

-- What is left to the system and to the library for 7z archives. Members are put into
-- a temporary folder, which is told by the names that lead there from the root, and an
-- error is what the system says. The library is given the members and a name, and leaves
-- the content that stands under this name then. Writes are counted from one.
structure Host where
  folder : List String
  extract : Archive.Member → Except String Unit
  sevenZip : List Archive.Member → String → Except String (Option (List UInt8))
  write : Nat → String → Option WriteFault

namespace Host

-- Nothing fails.
def ideal : Host where
  folder := ["tmp", "batch"]
  extract _ := .ok ()
  sevenZip members name := .ok ((members.find? (·.name == name)).bind Archive.Member.content)
  write _ _ := none

def path (host : Host) : Path := ⟨"/", host.folder⟩

def place (host : Host) : List String := "/" :: host.folder

-- No write fails.
def Writes (host : Host) : Prop := ∀ number text, host.write number text = none

-- What is extracted from a 7z archive under the name of a member is the content of a
-- member with this name.
def Unpacks (host : Host) : Prop :=
  ∀ members, ∀ member ∈ members, ∀ content,
    host.sevenZip members member.name = .ok content →
      ∃ other ∈ members, other.name = member.name ∧ other.content = content

end Host

end Reckoner
