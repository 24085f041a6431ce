import Reckon.Expression.Event
import Reckon.Stream.CharStream
import Reckon.Text.Position

/-! A scanner holds the one character that has been read and not consumed. It
knows where that character stands, and how deep the groups and exponents are
nested around it. -/

namespace Reckon

/-- The events are kept with the latest in front. -/
structure Scanner (σ : Type) where
  source : σ
  lookahead : Option Char
  position : Position
  depth : Nat
  events : List Event

/-- Groups and exponents nested deeper than this are rejected. -/
def nestingLimit : Nat := 10000

/-- A step of a scanner. One that fails leaves a scanner as well. -/
abbrev Scan (σ α : Type) := EStateM EvaluationError (Scanner σ) α

namespace Scanner

variable {σ : Type}

/-- Reads the first character. A source that fails at once gives no scanner. -/
def ofSource [CharStream σ] (source : σ) : Except (ReadError × σ) (Scanner σ) :=
  match CharStream.next source with
  | .ok lookahead source => .ok ⟨source, lookahead, .start, 0, []⟩
  | .error error source => .error (error, source)

def isAt (scanner : Scanner σ) (character : Char) : Bool := scanner.lookahead == some character

/-- An expression reaches up to the end of its line or of the input. -/
def isAtEnd (scanner : Scanner σ) : Bool := scanner.lookahead.all (· == '\n')

def rejection (scanner : Scanner σ) (cause : Cause) : Rejection :=
  ⟨cause, scanner.lookahead, scanner.position⟩

@[inline] def reject {α : Type} (cause : Cause) : Scan σ α := fun scanner =>
  .error (.rejected (scanner.rejection cause)) scanner

/-- Consumes the lookahead if it is `expected`, and reads the next one. When that
read fails, the position has moved on and the lookahead has not. -/
def consume [CharStream σ] (expected : Char) : Scan σ Unit := fun scanner =>
  if scanner.isAt expected then
    let events := .consumed expected scanner.position.column :: scanner.events
    let position := scanner.position.after expected
    match CharStream.next scanner.source with
    | .ok lookahead source => .ok () { scanner with source, lookahead, position, events }
    | .error error source => .error (.unreadable error) { scanner with source, position, events }
  else reject (.expected expected) scanner

def descend : Scan σ Unit := fun scanner =>
  if scanner.depth = nestingLimit then reject (.tooDeep nestingLimit) scanner
  else .ok () { scanner with depth := scanner.depth + 1 }

/-- Leaves one level of nesting; at the top there is none to leave. -/
def ascend (scanner : Scanner σ) : Scanner σ := { scanner with depth := scanner.depth - 1 }

def unread [CharStream σ] (scanner : Scanner σ) : Nat :=
  CharStream.remaining scanner.source + if scanner.lookahead.isSome then 1 else 0

theorem unread_lt_of_consume [CharStream σ] {expected : Char} {scanner rest : Scanner σ}
    (consumed : consume expected scanner = .ok () rest) : rest.unread < scanner.unread := by
  have law := CharStream.remaining_next scanner.source
  unfold consume at consumed
  split at consumed
  · rename_i here
    have present : scanner.lookahead = some expected := by simpa [isAt] using here
    split at consumed <;> rename_i answer
    · rename_i lookahead source
      cases consumed
      rw [answer] at law
      cases lookahead with
      | none => simpa [unread, present] using Nat.lt_succ_of_le law
      | some character => simpa [unread, present] using law
    · cases consumed
  · cases consumed

theorem unread_le_of_consume_error [CharStream σ] {expected : Char} {error : EvaluationError}
    {scanner rest : Scanner σ} (failed : consume expected scanner = .error error rest) :
    rest.unread ≤ scanner.unread := by
  have law := CharStream.remaining_next scanner.source
  unfold consume at failed
  split at failed
  · split at failed <;> rename_i answer
    · cases failed
    · cases failed
      rw [answer] at law
      exact Nat.add_le_add_right law _
  · cases failed
    exact Nat.le_refl _

theorem unread_of_descend [CharStream σ] {scanner inner : Scanner σ}
    (descended : descend scanner = .ok () inner) : inner.unread = scanner.unread := by
  unfold descend at descended
  split at descended <;> cases descended
  rfl

theorem eq_of_descend_error {error : EvaluationError} {scanner rest : Scanner σ}
    (failed : descend scanner = .error error rest) : rest = scanner := by
  unfold descend at failed
  split at failed <;> cases failed
  rfl

end Scanner

end Reckon
