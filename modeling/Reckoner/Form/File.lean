import Reckoner.FileTree
import Reckoner.Form

namespace Reckoner

namespace Field

def asPath : Field → Except Problem Path
  | .text value => .ok (Path.ofString value)
  | _ => .error .notPath

def asFile (files : FileTree) (field : Field) : Except Problem Path :=
  match field.asPath with
  | .error problem => .error problem
  | .ok path => if files.isFile path then .ok path else .error .notFile

end Field

-- What keeps a form from being accepted. A path that is too long to be looked
-- up is no issue of a field: it ends the reading.
inductive Refusal
  | issues (issues : List Issue)
  | overlong (path : Path)
  deriving DecidableEq, Repr

namespace Form

def path? (form : Form) (name : String) : Option Path :=
  (form.field? name).bind fun field => field.asPath.toOption

-- The reading of a form with a field that names a file. Issues found before
-- that file is looked up are lost with the rest.
def lookingUp {α : Type} (form : Form) (files : FileTree) (name : String) (reading : Checked α) :
    Except Refusal α :=
  match (form.path? name).filter files.isOverlong with
  | some path => .error (.overlong path)
  | none => reading.mapError .issues

end Form

end Reckoner
