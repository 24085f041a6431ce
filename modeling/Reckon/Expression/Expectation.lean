import Reckon.Diagnostic.Render
import Reckon.Expression.Evaluate

namespace Reckon

def Rejection.report (rejection : Rejection) (document : Document) (colours : Bool) : String :=
  let (documents, number) := Documents.add {} document
  (rejection.diagnostic number).render documents colours

namespace Expectation

/-- The name under which reports quote an example. -/
def exampleName : String := "<test>"

def report (rejection : Rejection) (text : String) : String :=
  rejection.report ⟨exampleName, text⟩ false

/-- The value of `text`, or the report of why it has none. -/
def valueOf (text : String) : Except String Value :=
  match (evaluateText text).result with
  | .ok value => .ok value
  | .error (.rejected rejection) => .error (report rejection text)
  | .error error => .error error.message

def value (text : String) (expected : Value) : Except String Unit :=
  let intent := s!"Expected {Quotation.ofText text} to evaluate to {expected}"
  match valueOf text with
  | .ok value => if value = expected then .ok () else .error s!"{intent}, but got {value}"
  | .error report => .error s!"{intent}, but got errors:\n{report}"

def rejection (text : String) : Except String Rejection :=
  match (evaluateText text).result with
  | .ok value =>
    .error s!"Expected {Quotation.ofText text} to be rejected, but it evaluated to {value}"
  | .error (.rejected rejection) => .ok rejection
  | .error (.unreadable error) =>
    .error s!"Expected a parse error for {Quotation.ofText text}, got I/O error {error.message}"

def occursIn (excerpt : List Char) : (text : List Char) → Bool
  | [] => excerpt.isEmpty
  | character :: text =>
    excerpt.isPrefixOf (character :: text) || occursIn excerpt text

/-- Expects `text` to be rejected with a report that contains `excerpt`. -/
def diagnostic (text excerpt : String) : Except String Unit := do
  let report := report (← rejection text) text
  if occursIn excerpt.toList report.toList then return ()
  else throw s!"Expected diagnostic to contain '{excerpt}', but it didn't.\n\nRendered:\n{report}"

end Expectation

end Reckon
