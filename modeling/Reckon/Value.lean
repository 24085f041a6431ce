import Reckon.Text.OneLine

/-! Values are 64-bit two's-complement integers. Every operation on them wraps
around and none can fail. -/

namespace Reckon

/-- What an expression evaluates to. -/
abbrev Value := Int64

namespace Value

/-- Squaring the base halves the exponent; an odd exponent leaves one factor over. -/
def naturalPower (base : Value) (exponent : Nat) : Value :=
  if exponent = 0 then 1
  else
    let half := naturalPower (base * base) (exponent / 2)
    if exponent % 2 = 0 then half else base * half
termination_by exponent

/-- A negative exponent gives 0 and a zero exponent gives 1, whatever the base. -/
def power (base exponent : Value) : Value :=
  if exponent < 0 then 0 else naturalPower base exponent.toNatClampNeg

def ofDigit (digit : Char) : Value := Int64.ofNat (digit.toNat - '0'.toNat)

def appendDigit (total : Value) (digit : Char) : Value := total * 10 + ofDigit digit

theorem oneLine_toString (value : Value) : '\n' ∉ (toString value).toList := by
  change '\n' ∉ (Int.repr value.toInt).toList
  cases value.toInt <;> rw [Int.repr] <;> simp [oneLine_toDigits]

end Value

end Reckon
