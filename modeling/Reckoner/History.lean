import Reckoner.Outcome

namespace Reckoner

-- Past calculations, oldest first.
structure History where
  entries : List String
  deriving DecidableEq, Repr

namespace History

def empty : History := ⟨[]⟩

def isEmpty (history : History) : Bool := history.entries.isEmpty

def size (history : History) : Nat := history.entries.length

def record (history : History) (entry : String) : History := ⟨history.entries ++ [entry]⟩

-- A failed calculation leaves no entry.
def recordOutcome (history : History) : Outcome → History
  | .result expression value => history.record (Outcome.entry expression value)
  | .failure _ _ _ => history

def numberFrom (first : Nat) : List String → List String
  | [] => []
  | entry :: rest => (toString first ++ ". " ++ entry) :: numberFrom (first + 1) rest

def numbered (history : History) : List String := numberFrom 1 history.entries

end History

end Reckoner
