import Reckon.Expression.Reading
import Reckon.Expression.Sign

/-! The grammar of expressions. Every rule returns the value of what it read, and
looks no further than one character ahead.

    line        = sum, then a line feed ahead or nothing
    sum         = term signedTerms
    signedTerms = ('+' | '-') term signedTerms | nothing
    term        = operand exponent
    exponent    = '*' '*' term | nothing
    operand     = '(' sum ')' | numeral
    numeral     = '0' | nonzero digit, then digits -/

namespace Reckon

namespace Grammar

variable {σ : Type} [CharStream σ]

/-- The digits that follow, appended to the numeral `total`. -/
def digits (total : Value) (start : Scanner σ) : Reading start Value :=
  match start.lookahead with
  | none => .done total start
  | some character =>
    if character.isDigit then
      Reading.consuming start character fun rest _ => digits (total.appendDigit character) rest
    else .done total start
termination_by start.unread

/-- A `0` is a numeral of its own: a digit after it is left to whatever comes next. -/
def numeral (start : Scanner σ) : Reading start Value :=
  match start.lookahead with
  | none => .reject .expectedNumber
  | some character =>
    if character = '0' then Reading.consuming start character fun rest _ => .done 0 rest
    else if character.isDigit then
      Reading.consuming start character fun rest _ => digits (Value.ofDigit character) rest
    else .reject .expectedNumber

mutual

def sum (start : Scanner σ) : Reading start Value :=
  (term start).andThen fun first afterFirst _ =>
    (signedTerms 0 afterFirst).andThen fun others rest _ => .done (first + others) rest
termination_by 4 * start.unread + 3

/-- The signed terms that follow, added to `total`. -/
def signedTerms (total : Value) (start : Scanner σ) : Reading start Value :=
  match start.lookahead.bind Sign.ofCharacter? with
  | none => .done total start
  | some sign =>
    Reading.consuming start sign.character fun afterSign _ =>
      (term afterSign).andThen fun value afterTerm _ =>
        signedTerms (sign.apply total value) afterTerm
termination_by 4 * start.unread + 1

def term (start : Scanner σ) : Reading start Value :=
  (operand start).andThen fun base afterBase _ =>
    (exponent afterBase).andThen fun power rest _ => .done (base.power power) rest
termination_by 4 * start.unread + 2

/-- No exponent is an exponent of 1. Otherwise the whole term on the right is read
first, one level deeper, and so a chain of exponents groups to the right. -/
def exponent (start : Scanner σ) : Reading start Value :=
  if start.isAt '*' then
    Reading.consuming start '*' fun afterStar _ =>
      if afterStar.isAt '*' then
        Reading.consuming afterStar '*' fun afterStars _ =>
          Reading.descending afterStars fun inner _ =>
            (term inner).andThen fun value rest _ => .done value rest.ascend
      else .reject .loneStar
  else .done 1 start
termination_by 4 * start.unread + 1

/-- A group is entered before its parenthesis is consumed, and is left after the
closing one. -/
def operand (start : Scanner σ) : Reading start Value :=
  if start.isAt '(' then
    Reading.descending start fun inner _ =>
      Reading.consuming inner '(' fun afterOpening _ =>
        (sum afterOpening).andThen fun value afterSum _ =>
          if afterSum.isAt ')' then
            Reading.consuming afterSum ')' fun rest _ => .done value rest.ascend
          else .reject (.unclosedGroup start.position)
  else numeral start
termination_by 4 * start.unread + 1

end

def line (start : Scanner σ) : Reading start Value :=
  (sum start).andThen fun value rest _ =>
    if rest.isAtEnd then .done value rest else .reject .trailingInput

end Grammar

end Reckon
