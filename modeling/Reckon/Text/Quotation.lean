import Reckon.Text.Extender
import Reckon.Text.OneLine
import Reckon.Text.Printable

namespace Reckon

/-- Which quotation marks are spelled with a backslash. -/
inductive Quotation where
  | single
  | double
  | both
deriving DecidableEq, Repr

namespace Quotation

def escapes : Quotation → Char → Bool
  | single, character => character == '\x27'
  | double, character => character == '\x22'
  | both, character => character == '\x27' || character == '\x22'

/-- The digits are lower case, without leading zeros. -/
def codePoint (character : Char) : String :=
  "\\u\x7b" ++ String.ofList (Nat.toDigits 16 character.toNat) ++ "\x7d"

/-- How `character` is written between quotation marks. -/
def spell (quotation : Quotation) (character : Char) : String :=
  match character with
  | '\x00' => "\\0"
  | '\t' => "\\t"
  | '\r' => "\\r"
  | '\n' => "\\n"
  | '\\' => "\\\\"
  | _ =>
    if quotation.escapes character then "\\".push character
    else if isExtender character || !isPrintable character then codePoint character
    else character.toString

/-- A character between single quotation marks, as log entries show it. -/
def ofCharacter (character : Char) : String := "\x27" ++ single.spell character ++ "\x27"

def ofText (text : String) : String :=
  "\x22" ++ String.join (text.toList.map double.spell) ++ "\x22"

theorem oneLine_spell (quotation : Quotation) (character : Char) :
    '\n' ∉ (quotation.spell character).toList := by
  unfold spell
  split
  case h_6 =>
    -- A line feed has a spelling of its own.
    have ordinary : '\n' ≠ character := by
      rintro rfl
      contradiction
    split
    · simp [ordinary]
    · split
      · simp [codePoint, oneLine_toDigits]
      · simp [ordinary]
  all_goals decide

theorem oneLine_ofText (text : String) : '\n' ∉ (ofText text).toList := by
  have spelled (character : Char) := double.oneLine_spell character
  simp [ofText, String.toList_join, spelled]

theorem oneLine_ofCharacter (character : Char) : '\n' ∉ (ofCharacter character).toList := by
  have spelled := single.oneLine_spell character
  simp [ofCharacter, spelled]

end Quotation

end Reckon
