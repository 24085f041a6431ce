import Reckon.Text.OneLine

/-! A position counts lines and columns from 1, in characters, and offsets from
0, in bytes of UTF-8. -/

namespace Reckon

structure Position where
  line : Nat
  column : Nat
  offset : Nat
deriving DecidableEq, Repr

namespace Position

def start : Position := ⟨1, 1, 0⟩

/-- The position right after `character`; a line feed opens the next line. -/
def after (position : Position) (character : Char) : Position :=
  if character = '\n' then ⟨position.line + 1, 1, position.offset + 1⟩
  else ⟨position.line, position.column + 1, position.offset + character.utf8Size⟩

def afterAll (position : Position) (characters : List Char) : Position :=
  characters.foldl after position

/-- Offsets are for machines: only line and column are shown. -/
def shown (position : Position) : String := s!"{position.line}:{position.column}"

theorem oneLine_shown (position : Position) : '\n' ∉ position.shown.toList := by
  simp [shown, toString_words, oneLine_toDigits]

end Position

end Reckon
