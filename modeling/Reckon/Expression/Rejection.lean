import Reckon.Diagnostic.Basic
import Reckon.Stream.ReadError
import Reckon.Text.Blank
import Reckon.Text.Quotation

namespace Reckon

/-- What did not fit. -/
inductive Cause where
  | expected (character : Char)
  | expectedNumber
  | unclosedGroup (opened : Position)
  | loneStar
  | trailingInput
  | tooDeep (limit : Nat)
deriving DecidableEq, Repr

namespace Cause

def message : Cause → String
  | expected character => "expected '" ++ Quotation.both.spell character ++ "'"
  | expectedNumber => "expected a number"
  | unclosedGroup _ => "expected ')' to close parenthesis"
  | loneStar => "expected a second '*' for exponentiation"
  | trailingInput => "unexpected input after expression"
  | tooDeep limit => s!"expression nested deeper than {limit} levels"

/-- All causes belong to the category of parsing. -/
def code (cause : Cause) : ErrorCode := ⟨'P', number cause⟩
where
  number : Cause → Nat
    | expected _ => 1
    | expectedNumber => 2
    | unclosedGroup _ => 3
    | loneStar => 4
    | trailingInput => 5
    | tooDeep _ => 6

theorem oneLine_message (cause : Cause) : '\n' ∉ cause.message.toList := by
  unfold message
  cases cause with
  | expected character =>
    have spelled := Quotation.both.oneLine_spell character
    simp [spelled]
  | tooDeep limit => simp [toString_words, oneLine_toDigits]
  | _ => simp

end Cause

/-- Nothing is found at the end of the input. -/
structure Rejection where
  cause : Cause
  found : Option Char
  position : Position
deriving DecidableEq, Repr

def describeFound : Option Char → String
  | none => "end of input"
  | some '\n' => "end of line"
  | some character => "'" ++ Quotation.both.spell character ++ "'"

theorem oneLine_describeFound (found : Option Char) : '\n' ∉ (describeFound found).toList := by
  unfold describeFound
  split
  case h_3 character _ =>
    have spelled := Quotation.both.oneLine_spell character
    simp [spelled]
  all_goals decide

namespace Rejection

def message (rejection : Rejection) : String :=
  s!"{rejection.cause.message}, found {describeFound rejection.found} at {rejection.position.shown}"

/-- The character that was found, and the parenthesis that still waits for its partner. -/
def labels (rejection : Rejection) (document : Nat) : List Label :=
  let primary : Label :=
    { span := .ofCharacter rejection.position rejection.found document
      message := "found " ++ describeFound rejection.found
      primary := true }
  match rejection.cause with
  | .unclosedGroup opened =>
    [primary, ⟨.ofCharacter opened (some '(') document, "parenthesis opened here", false⟩]
  | _ => [primary]

/-- Only a lone `0` or a group can have a digit right after it. -/
def notes (rejection : Rejection) : List String :=
  match rejection.cause with
  | .loneStar => ["there is no multiplication operator"]
  | .trailingInput =>
    if rejection.found.any Char.isDigit then
      ["`0` is a complete number; digits cannot follow it or a `)`"]
    else []
  | _ => []

/-- A line feed is white space that an input may well end with. -/
def helps (rejection : Rejection) : List String :=
  let spelling :=
    if rejection.cause = .loneStar then ["exponentiation is written `**`"] else []
  let removal :=
    if rejection.found.any fun character => isBlank character && character != '\n' then
      ["remove the whitespace; it is not allowed in expressions"]
    else []
  spelling ++ removal

def diagnostic (rejection : Rejection) (document : Nat) : Diagnostic where
  level := .error
  code := rejection.cause.code
  message := rejection.cause.message
  labels := rejection.labels document
  notes := rejection.notes
  helps := rejection.helps

theorem oneLine_message (rejection : Rejection) : '\n' ∉ rejection.message.toList := by
  have cause := rejection.cause.oneLine_message
  have found := oneLine_describeFound rejection.found
  have place := rejection.position.oneLine_shown
  simp [message, toString_words, cause, found, place]

end Rejection

inductive EvaluationError where
  | unreadable (error : ReadError)
  | rejected (rejection : Rejection)
deriving DecidableEq, Repr

def EvaluationError.message : EvaluationError → String
  | unreadable error => "failed to read input: " ++ error.message
  | rejected rejection => rejection.message

theorem EvaluationError.oneLine_message (error : EvaluationError)
    (readable : ∀ failure, error = .unreadable failure → '\n' ∉ failure.message.toList) :
    '\n' ∉ error.message.toList := by
  unfold message
  cases error with
  | unreadable failure => simp [readable failure rfl]
  | rejected rejection => exact rejection.oneLine_message

end Reckon
