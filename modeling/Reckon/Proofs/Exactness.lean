import Mathlib
import Reckon.Proofs.Line

/-! Values against unbounded integers. Sums and powers may overflow at every step and the
value is still that of the exact result, wrapped around once. Only an exponent must not
overflow: it counts factors, and what it counts is lost when it is wrapped around. -/

namespace Reckon

/-- The integers that a value can be without being wrapped around. -/
def Value.Holds (integer : Int) : Prop := -2 ^ 63 ≤ integer ∧ integer < 2 ^ 63

private theorem Value.toInt_ofInt_of_holds {integer : Int} (holds : Holds integer) :
    (Int64.ofInt integer).toInt = integer :=
  Int64.toInt_ofInt_of_le holds.1 holds.2

namespace Tree

/-- What stands to the right of each `**`, up to the end of its chain. -/
def exponents : Tree category → List (Tree .term)
  | numeral _ => []
  | group inner => inner.exponents
  | plain base => base.exponents
  | power base exponent => base.exponents ++ exponent :: exponent.exponents
  | single term => term.exponents
  | signed front _ term => front.exponents ++ term.exponents

private theorem count_star_text (tree : Tree category) :
    tree.text.count '*' = 2 * tree.exponents.length := by
  induction tree with
  | numeral numeral =>
    refine List.count_eq_zero.mpr fun member => ?_
    exact absurd (Numeral.isDigit_of_mem member) (by decide)
  | group inner ih => simp [text, exponents, ih]
  | plain base ih => exact ih
  | power base exponent baseStars exponentStars =>
    simp only [text, exponents, List.count_append, List.count_cons_self, List.length_append,
      List.length_cons, baseStars, exponentStars]
    omega
  | single term ih => exact ih
  | signed front sign term frontStars termStars =>
    have noStar : (sign.character == '*') = false := by cases sign <;> rfl
    simp only [text, exponents, List.count_append, List.count_cons, noStar, List.length_append,
      frontStars, termStars]
    simp [Nat.mul_add]

/-- Wrapping around is a homomorphism for all that expressions are made of, but for the
exponents, which have to be what they are meant to be. -/
theorem value_eq_ofInt (tree : Tree category)
    (fits : ∀ exponent ∈ tree.exponents, Value.Holds exponent.integer) :
    tree.value = Int64.ofInt tree.integer := by
  induction tree with
  | numeral numeral => exact (Int64.ofInt_eq_ofNat).symm
  | group inner ih => exact ih fits
  | plain base ih => exact ih fits
  | power base exponent baseValue exponentValue =>
    simp only [exponents, List.forall_mem_append, List.forall_mem_cons] at fits
    obtain ⟨baseFits, holds, exponentFits⟩ := fits
    -- The exponent is not wrapped around, so both powers have the same number of factors.
    have counted : exponent.value.toInt = exponent.integer := by
      rw [exponentValue exponentFits, Value.toInt_ofInt_of_holds holds]
    have negative : exponent.value < 0 ↔ exponent.integer < 0 := by
      rw [Int64.lt_iff_toInt_lt, counted]
      rfl
    rw [value, Value.power_eq, integer, counted, baseValue baseFits]
    simp only [negative]
    split
    · rfl
    · rw [Value.ofInt_pow, Int64.ofInt_toInt, Value.ofInt_pow]
  | single term ih => exact ih fits
  | signed front sign term frontValue termValue =>
    simp only [exponents, List.forall_mem_append] at fits
    obtain ⟨frontFits, termFits⟩ := fits
    cases sign with
    | plus =>
      rw [value, Sign.apply, integer, Int64.ofInt_add, frontValue frontFits, termValue termFits]
    | minus =>
      rw [value, Sign.apply, integer, Int64.ofInt_sub, frontValue frontFits, termValue termFits]

end Tree

/-- An accepted line has one reading, with an exponent for each of its `**`. When no exponent
is beyond what a value can be, the line has its exact value, wrapped around once. -/
theorem evaluateText_wrappedOnce (text : String) (value : Value)
    (accepted : (evaluateText text).result = .ok value) :
    ∃ tree : Tree .sum, tree.text = firstLine text ∧
      (∀ other : Tree .sum, other.text = firstLine text → other = tree) ∧
      (firstLine text).count '*' = 2 * tree.exponents.length ∧
      ((∀ exponent ∈ tree.exponents, Value.Holds exponent.integer) →
        value.toInt = tree.integer.bmod (2 ^ 64)) := by
  obtain ⟨tree, spelled, _, rfl⟩ := evaluateText_accepted accepted
  refine ⟨tree, spelled, ?_, ?_, ?_⟩
  · intro other same
    exact Tree.eq_of_text (same.trans spelled.symm)
  · rw [← spelled, tree.count_star_text]
  · intro fits
    rw [tree.value_eq_ofInt fits, Int64.toInt_ofInt]
    rfl

/-- Two powers, their sum and the base of a square are too large for a value. -/
theorem evaluateText_wrappedOnce_square :
    let digit (character : Char) (isDigit : character.isDigit) : Tree .operand :=
      .numeral (.ofDigit character isDigit)
    let sixtyThree : Numeral := .append (.ofDigit '6' rfl) '3' (by decide) rfl
    let power : Tree .term := .power (digit '2' rfl) (.plain (.numeral sixtyThree))
    let base : Tree .sum := .signed (.signed (.single power) .plus power) .plus
      (.plain (digit '1' rfl))
    let tree : Tree .sum := .signed (.single (.power (.group base) (.plain (digit '2' rfl))))
      .minus (.plain (digit '9' rfl))
    let text := "(2**63+2**63+1)**2-9\n**"
    (evaluateText text).result = .ok (-8) ∧ tree.text = firstLine text ∧
      (∀ exponent ∈ tree.exponents, Value.Holds exponent.integer) ∧
      tree.integer = (2 ^ 64 + 1) ^ 2 - 9 ∧ (-8 : Value).toInt = tree.integer.bmod (2 ^ 64) := by
  intro digit sixtyThree power base tree text
  have accepted : (evaluateText text).result = .ok (-8) := by
    dsimp only [text]
    cbv
  have spelled : tree.text = firstLine text := by
    dsimp only [text]
    cbv
  have fits : ∀ exponent ∈ tree.exponents, Value.Holds exponent.integer := by
    have listed : tree.exponents = [.plain (.numeral sixtyThree), .plain (.numeral sixtyThree),
      .plain (digit '2' rfl)] := rfl
    simp only [listed, List.forall_mem_cons, Value.Holds]
    decide
  obtain ⟨other, _, unique, _, wrapped⟩ := evaluateText_wrappedOnce text (-8) accepted
  obtain rfl : tree = other := unique tree spelled
  exact ⟨accepted, spelled, fits, by decide, wrapped fits⟩

end Reckon
