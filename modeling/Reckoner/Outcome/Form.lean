import Reckoner.Form
import Reckoner.Outcome

namespace Reckoner

def requestOfForm (form : Form) : Checked String := form.required "expression" Field.asText

namespace Outcome

def resultOfForm (form : Form) : Checked Outcome :=
  Checked.apply (.ok Outcome.result) (form.required "expression" Field.asText)
    |>.apply (form.required "result" Field.asNumber)

def failureOfForm (form : Form) : Checked Outcome :=
  Checked.apply (.ok Outcome.failure) (form.required "expression" Field.asText)
    |>.apply (form.required "kind" Field.asKind)
    |>.apply (form.required "message" Field.asText)

end Outcome

end Reckoner
