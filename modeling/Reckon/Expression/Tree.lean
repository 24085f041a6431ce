import Mathlib.Algebra.Group.Int.Defs
import Reckon.Expression.Sign

namespace Reckon

/-- A numeral is a zero, or digits of which the first is not zero. -/
structure Numeral where
  digits : List Char
  wellFormed : digits = ['0'] ∨
    ∃ first rest, digits = first :: rest ∧ first ≠ '0' ∧ ∀ digit ∈ digits, digit.isDigit

namespace Numeral

def toNat (numeral : Numeral) : Nat :=
  numeral.digits.foldl (fun total digit => 10 * total + (digit.toNat - '0'.toNat)) 0

end Numeral

/-- The places of the grammar that a tree can stand in. -/
inductive Category where
  | operand
  | term
  | sum
deriving DecidableEq, Repr

/-- Sums lean to the left and exponents to the right. -/
inductive Tree : Category → Type where
  | numeral (numeral : Numeral) : Tree .operand
  | group (inner : Tree .sum) : Tree .operand
  | plain (base : Tree .operand) : Tree .term
  | power (base : Tree .operand) (exponent : Tree .term) : Tree .term
  | single (term : Tree .term) : Tree .sum
  | signed (front : Tree .sum) (sign : Sign) (term : Tree .term) : Tree .sum

namespace Tree

def text : Tree category → List Char
  | numeral number => number.digits
  | group inner => '(' :: (inner.text ++ [')'])
  | plain base => base.text
  | power base exponent => base.text ++ '*' :: '*' :: exponent.text
  | single term => term.text
  | signed front sign term => front.text ++ sign.character :: term.text

/-- The value with every operation wrapped around. -/
def value : Tree category → Value
  | numeral number => Int64.ofNat number.toNat
  | group inner => inner.value
  | plain base => base.value
  | power base exponent => base.value.power exponent.value
  | single term => term.value
  | signed front sign term => sign.apply front.value term.value

/-- The value over the integers; a negative exponent still gives 0. -/
def integer : Tree category → Int
  | numeral number => number.toNat
  | group inner => inner.integer
  | plain base => base.integer
  | power base exponent => if exponent.integer < 0 then 0 else base.integer ^ exponent.integer.toNat
  | single term => term.integer
  | signed front .plus term => front.integer + term.integer
  | signed front .minus term => front.integer - term.integer

/-- How deep groups and exponents are nested. Terms of a sum stand side by side. -/
def nesting : Tree category → Nat
  | numeral _ => 0
  | group inner => inner.nesting + 1
  | plain base => base.nesting
  | power base exponent => max base.nesting (exponent.nesting + 1)
  | single term => term.nesting
  | signed front _ term => max front.nesting term.nesting

end Tree

end Reckon
