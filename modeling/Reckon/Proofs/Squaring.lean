import Mathlib
import Reckon.Proofs.Meaning

/-! Powers by repeated squaring. Every call halves the exponent, so that a power takes no more
calls than its exponent has bits, and what they come to is the exact power, wrapped around. -/

namespace Reckon

namespace Value

/-- The calls that raise a base to an exponent. Each constructor is one of them, and its premise
is the call that it makes in turn; `calls` counts them all. -/
inductive Raises : (base exponent : Value) → (calls : Nat) → (result : Value) → Prop where
  | negative (below : exponent < 0) : Raises base exponent 1 0
  | zero : Raises base 0 1 1
  | one : Raises base 1 1 base
  | even (several : 1 < exponent) (even : exponent % 2 = 0)
      (half : Raises (base * base) (exponent / 2) calls result) :
      Raises base exponent (calls + 1) result
  | odd (several : 1 < exponent) (odd : exponent % 2 ≠ 0)
      (half : Raises (base * base) (exponent / 2) calls result) :
      Raises base exponent (calls + 1) (base * result)

theorem power_zero (base : Value) : base.power 0 = 1 := by
  have none : (0 : Value).toInt.toNat = 0 := rfl
  rw [power_eq, if_neg (by decide), none, pow_zero]
  rfl

theorem power_negative (base : Value) {exponent : Value} (below : exponent < 0) :
    base.power exponent = 0 := by
  rw [power, if_pos below]

private theorem toNat_negative {exponent : Value} (below : exponent < 0) :
    exponent.toNatClampNeg = 0 :=
  Int.toNat_of_nonpos (Int.le_of_lt (Int64.lt_iff_toInt_lt.mp below))

private theorem eq_zero_or_one {exponent : Value} (few : ¬ 1 < exponent) (counts : ¬ exponent < 0) :
    exponent = 0 ∨ exponent = 1 := by
  have one : (1 : Value).toInt = 1 := rfl
  rw [Int64.lt_iff_toInt_lt, one] at few
  rw [Int64.lt_iff_toInt_lt, Int64.toInt_zero] at counts
  rw [← Int64.toInt_inj, ← Int64.toInt_inj, one, Int64.toInt_zero]
  omega

/-- How many calls it takes to raise to an exponent: one for each of its bits. -/
def bits (exponent : Value) : Nat := exponent.toNatClampNeg.log2 + 1

theorem bits_negative {exponent : Value} (below : exponent < 0) : exponent.bits = 1 := by
  rw [bits, toNat_negative below]
  rfl

private theorem bits_le (exponent : Value) : exponent.bits ≤ 63 := by
  have bound := exponent.toInt_lt
  have within : exponent.toNatClampNeg < 2 ^ 63 := by
    change exponent.toInt.toNat < 2 ^ 63
    omega
  by_cases none : exponent.toNatClampNeg = 0
  · rw [bits, none]
    decide
  · exact (Nat.log2_lt none).mpr within

section several

variable {exponent : Value} (several : 1 < exponent)

include several

theorem one_lt_toInt : 1 < exponent.toInt := Int64.lt_iff_toInt_lt.mp several

theorem one_lt_toNat : 1 < exponent.toNatClampNeg := by
  have many := one_lt_toInt several
  change 1 < exponent.toInt.toNat
  omega

private theorem not_negative : ¬ exponent < 0 := by
  have many := one_lt_toInt several
  rw [Int64.lt_iff_toInt_lt, Int64.toInt_zero]
  omega

theorem toInt_half : (exponent / 2).toInt = exponent.toInt / 2 := by
  have many := one_lt_toInt several
  have bound := exponent.toInt_lt
  have two : (2 : Value).toInt = 2 := rfl
  rw [Int64.toInt_div, two, Int.tdiv_eq_ediv_of_nonneg (by omega)]
  exact Int.bmod_eq_of_le (by omega) (by omega)

private theorem half_not_negative : ¬ exponent / 2 < 0 := by
  have many := one_lt_toInt several
  rw [Int64.lt_iff_toInt_lt, toInt_half several, Int64.toInt_zero]
  omega

theorem toNat_half : (exponent / 2).toNatClampNeg = exponent.toNatClampNeg / 2 := by
  have many := one_lt_toInt several
  change (exponent / 2).toInt.toNat = exponent.toInt.toNat / 2
  rw [toInt_half several]
  omega

theorem bits_half : exponent.bits = (exponent / 2).bits + 1 := by
  have many : 2 ≤ exponent.toNatClampNeg := one_lt_toNat several
  rw [bits, bits, Nat.log2_def, if_pos many, toNat_half several]

private theorem even_iff : exponent % 2 = 0 ↔ exponent.toNatClampNeg % 2 = 0 := by
  have many := one_lt_toInt several
  have two : (2 : Value).toInt = 2 := rfl
  rw [← Int64.toInt_inj, Int64.toInt_mod, two, Int64.toInt_zero,
    Int.tmod_eq_emod_of_nonneg (by omega)]
  change _ ↔ exponent.toInt.toNat % 2 = 0
  omega

/-- A power is the power of the square to half the exponent, with one factor more if it is odd. -/
theorem power_half (base : Value) : base.power exponent =
    if exponent % 2 = 0 then (base * base).power (exponent / 2)
    else base * (base * base).power (exponent / 2) := by
  have some : exponent.toNatClampNeg ≠ 0 := Nat.ne_of_gt (Nat.lt_of_succ_lt (one_lt_toNat several))
  rw [power, if_neg (not_negative several), naturalPower, if_neg some, power,
    if_neg (half_not_negative several), toNat_half several]
  simp only [even_iff several]

end several

namespace Raises

variable {base exponent result : Value} {calls : Nat}

/-- However a power is computed, it takes so many calls and comes to this. -/
theorem unique (raises : Raises base exponent calls result) :
    calls = exponent.bits ∧ result = base.power exponent := by
  induction raises with
  | negative below => exact ⟨(bits_negative below).symm, (power_negative _ below).symm⟩
  | zero => exact ⟨rfl, (power_zero _).symm⟩
  | one => exact ⟨rfl, (power_one _).symm⟩
  | even several even _ ih =>
    obtain ⟨rfl, rfl⟩ := ih
    exact ⟨(bits_half several).symm, by rw [power_half several, if_pos even]⟩
  | odd several odd _ ih =>
    obtain ⟨rfl, rfl⟩ := ih
    exact ⟨(bits_half several).symm, by rw [power_half several, if_neg odd]⟩

/-- The calls come to an end, as each of them halves what the next one has to do. -/
theorem ofPower (base exponent : Value) :
    Raises base exponent exponent.bits (base.power exponent) := by
  generalize count : exponent.toNatClampNeg = factors
  induction factors using Nat.strongRecOn generalizing base exponent with
  | ind factors ih =>
    by_cases several : 1 < exponent
    · have many := one_lt_toNat several
      have half := ih (factors / 2) (by omega) (base * base) (exponent / 2)
        (by rw [toNat_half several, count])
      rw [bits_half several, power_half several]
      by_cases even : exponent % 2 = 0
      · rw [if_pos even]
        exact .even several even half
      · rw [if_neg even]
        exact .odd several even half
    · by_cases below : exponent < 0
      · rw [bits_negative below, power_negative _ below]
        exact .negative below
      · rcases eq_zero_or_one several below with rfl | rfl
        · rw [power_zero]
          exact .zero
        · rw [power_one]
          exact .one

end Raises

/-- There is one way to compute a power, of at most 63 calls. It comes to the exact power of the
integers, wrapped around; a negative exponent gives 0. -/
theorem power_wrapsAround (base exponent : Value) :
    (∃ count ≤ 63, ∀ calls result,
      Raises base exponent calls result ↔ calls = count ∧ result = base.power exponent) ∧
      (base.power exponent).toInt =
        if exponent < 0 then 0 else (base.toInt ^ exponent.toInt.toNat).bmod (2 ^ 64) := by
  constructor
  · refine ⟨exponent.bits, exponent.bits_le, fun calls result => ⟨Raises.unique, ?_⟩⟩
    rintro ⟨rfl, rfl⟩
    exact .ofPower base exponent
  · rw [power_eq]
    split
    · rfl
    · exact Int64.toInt_ofInt

end Value

end Reckon
