import Mathlib.Algebra.Group.Int.Defs
import Reckon.Proofs.Draft

namespace Reckon

namespace Value

private theorem pow_two_mul (base : Value) (half : Nat) :
    (base * base) ^ half = base ^ (2 * half) := by
  induction half with
  | zero => rfl
  | succ half ih =>
    rw [Int64.pow_succ, ih, Nat.mul_succ, Int64.pow_succ, Int64.pow_succ, Int64.mul_assoc]

theorem naturalPower_eq_pow (base : Value) (exponent : Nat) :
    naturalPower base exponent = base ^ exponent := by
  fun_induction naturalPower base exponent with
  | case1 base => rfl
  | case2 base exponent _ half even ih =>
    have whole : 2 * (exponent / 2) = exponent := by omega
    rw [show half = _ from ih, pow_two_mul, whole]
  | case3 base exponent _ half odd ih =>
    have whole : 2 * (exponent / 2) + 1 = exponent := by omega
    rw [show half = _ from ih, pow_two_mul, Int64.mul_comm, ← Int64.pow_succ, whole]

theorem ofInt_pow (base : Int) (exponent : Nat) :
    Int64.ofInt (base ^ exponent) = Int64.ofInt base ^ exponent := by
  induction exponent with
  | zero => simp
  | succ exponent ih => rw [Int.pow_succ, Int64.ofInt_mul, ih, Int64.pow_succ]

theorem power_eq (base exponent : Value) : base.power exponent =
    if exponent < 0 then 0 else Int64.ofInt (base.toInt ^ exponent.toInt.toNat) := by
  unfold power
  split
  · rfl
  · rw [naturalPower_eq_pow, ofInt_pow, Int64.ofInt_toInt]
    rfl

@[simp] theorem power_one (base : Value) : base.power 1 = base := by
  rw [power_eq, if_neg (by decide), show (1 : Value).toInt.toNat = 1 from rfl, Int.pow_one,
    Int64.ofInt_toInt]

end Value

namespace Sign

theorem apply_add (sign : Sign) (first total term : Value) :
    sign.apply (first + total) term = first + sign.apply total term := by
  cases sign
  · exact Int64.add_assoc first total term
  · simp only [apply, Int64.sub_eq_add_neg, Int64.add_assoc]

end Sign

namespace Numeral

theorem value_ofDigit (digit : Char) (isDigit : digit.isDigit) :
    Int64.ofNat (ofDigit digit isDigit).toNat = Value.ofDigit digit := by
  simp [ofDigit, toNat, Value.ofDigit]

theorem value_append (numeral : Numeral) (digit : Char) (nonzero : numeral.digits ≠ ['0'])
    (isDigit : digit.isDigit) : Int64.ofNat (numeral.append digit nonzero isDigit).toNat =
      Value.appendDigit (Int64.ofNat numeral.toNat) digit := by
  simp only [append, toNat, List.foldl_append, List.foldl_cons, List.foldl_nil]
  rw [Int64.ofNat_add, Int64.ofNat_mul, Int64.mul_comm]
  rfl

end Numeral

namespace Tree

/-- The meaning of an expression: each operation is done on integers, and its result is
reduced to the 64 bits of a value. A negative exponent gives 0. -/
def meaning : Tree category → Value
  | numeral number => Int64.ofNat number.toNat
  | group inner => inner.meaning
  | plain base => base.meaning
  | power base exponent =>
    if exponent.meaning < 0 then 0
    else Int64.ofInt (base.meaning.toInt ^ exponent.meaning.toInt.toNat)
  | single term => term.meaning
  | signed front .plus term => Int64.ofInt (front.meaning.toInt + term.meaning.toInt)
  | signed front .minus term => Int64.ofInt (front.meaning.toInt - term.meaning.toInt)

theorem value_eq_meaning (tree : Tree category) : tree.value = tree.meaning := by
  induction tree with
  | numeral number => rfl
  | group inner ih => exact ih
  | plain base ih => exact ih
  | power base exponent baseValue exponentValue =>
    rw [value, meaning, Value.power_eq, baseValue, exponentValue]
  | single term ih => exact ih
  | signed front sign term frontValue termValue =>
    cases sign <;> simp [value, meaning, Sign.apply, frontValue, termValue]

end Tree

end Reckon
