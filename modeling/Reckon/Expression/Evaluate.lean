import Reckon.Expression.Grammar
import Reckon.Stream.Directory
import Reckon.Stream.Utf8

/-! One evaluation takes one line: an expression up to a line feed or to the end of
the input. What comes after the line feed is never read. -/

namespace Reckon

variable {σ : Type} [CharStream σ]

/-- The result, the source as the evaluation left it, and what was recorded, in order. -/
structure Evaluation (σ : Type) where
  result : Except EvaluationError Value
  source : σ
  log : List Event

/-- Evaluates one line of `source`. A source whose first read fails has nothing
recorded about it. -/
def evaluate (source : σ) : Evaluation σ :=
  match Scanner.ofSource source with
  | .error (error, source) => ⟨.error (.unreadable error), source, []⟩
  | .ok scanner =>
    match (Grammar.line scanner).outcome with
    | .ok value rest => ⟨.ok value, rest.source, (.evaluated value :: rest.events).reverse⟩
    | .error error rest => ⟨.error error, rest.source, (.failed error :: rest.events).reverse⟩

def evaluateText (text : String) : Evaluation (List Char) := evaluate text.toList

def evaluateBytes (bytes : ByteReader) : Evaluation Utf8Stream :=
  evaluate { bytes := bytes : Utf8Stream }

/-- Evaluates the first line of the file at `path`. Of a file that cannot be opened
there is no source, and nothing is recorded about it. -/
def evaluateFile (directory : Directory) (path : String) : Evaluation (Option Utf8Stream) :=
  match directory.open? path with
  | .error error => ⟨.error (.unreadable error), none, []⟩
  | .ok bytes =>
    let evaluation := evaluateBytes bytes
    ⟨evaluation.result, some evaluation.source, evaluation.log⟩

end Reckon
