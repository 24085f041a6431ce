import Reckon.Text.Position

namespace Reckon

/-- The stop is exclusive; `document` is the number of a stored document. -/
structure Span where
  start : Position
  stop : Position
  document : Nat
deriving DecidableEq, Repr

namespace Span

/-- The span of the one character at `position`. The end of a line or of the
input has no width in bytes, but still takes one column to point at. -/
def ofCharacter (position : Position) (found : Option Char) (document : Nat) : Span :=
  match found with
  | none | some '\n' => ⟨position, { position with column := position.column + 1 }, document⟩
  | some character => ⟨position, position.after character, document⟩

/-- Length in bytes; a span that stops before it starts has none. -/
def size (span : Span) : Nat := span.stop.offset - span.start.offset

def isEmpty (span : Span) : Bool := span.size == 0

/-- Columns to underline: a span that ends on another line, or before it starts,
still shows where it starts. -/
def width (span : Span) : Nat :=
  if span.start.line = span.stop.line then max 1 (span.stop.column - span.start.column) else 1

section ofCharacter

variable (position : Position) (found : Option Char) (document : Nat)

@[simp] theorem ofCharacter_start : (ofCharacter position found document).start = position := by
  unfold ofCharacter
  split <;> rfl

@[simp] theorem ofCharacter_document :
    (ofCharacter position found document).document = document := by
  unfold ofCharacter
  split <;> rfl

@[simp] theorem width_ofCharacter : (ofCharacter position found document).width = 1 := by
  unfold ofCharacter
  split
  · simp [width]
  · simp [width]
  · rename_i character notFeed
    have inLine : character ≠ '\n' := by
      rintro rfl
      exact notFeed rfl
    simp [width, Position.after, inLine]

end ofCharacter

end Span

end Reckon
