import Mathlib
import Reckon.Proofs.Composition

namespace Reckon

namespace Value

private theorem appendDigit_ofInt (total : Int) (digit : Char) :
    appendDigit (Int64.ofInt total) digit =
      Int64.ofInt (total * 10 + (digit.toNat - '0'.toNat : Nat)) := by
  rw [Int64.ofInt_add, Int64.ofInt_mul, Int64.ofInt_eq_ofNat]
  rfl

/-- Digits appended one after the other come to a total in front of the number that they write. -/
theorem foldl_appendDigit (total : Value) (digits : List Char) :
    digits.foldl appendDigit total =
      Int64.ofInt (total.toInt * 10 ^ digits.length + Nat.ofDigitChars 10 digits 0) := by
  induction digits using List.reverseRecOn with
  | nil => simp
  | append_singleton digits digit ih =>
    rw [List.foldl_append, List.foldl_cons, List.foldl_nil, ih, appendDigit_ofInt,
      Nat.ofDigitChars_append, Nat.ofDigitChars_cons, Nat.ofDigitChars_nil, List.length_append,
      List.length_singleton]
    congr 1
    push_cast
    ring

end Value

/-- Digits make a numeral if the first of them is not zero, or if there is just a zero. -/
def Numeral.ofDigits (digits : List Char) (nonempty : digits ≠ [])
    (decimal : ∀ digit ∈ digits, digit.isDigit)
    (leading : digits = ['0'] ∨ digits.head? ≠ some '0') : Numeral where
  digits
  wellFormed := by
    refine leading.imp_right fun nonzero => ?_
    obtain ⟨first, rest, rfl⟩ := List.exists_cons_of_ne_nil nonempty
    exact ⟨first, rest, rfl, fun zero => nonzero (congrArg some zero), decimal⟩

theorem evaluateText_digits {digits : List Char} (nonempty : digits ≠ [])
    (decimal : ∀ digit ∈ digits, digit.isDigit)
    (leading : digits = ['0'] ∨ digits.head? ≠ some '0') :
    (evaluateText (String.ofList digits)).result =
      .ok (Int64.ofNat (Nat.ofDigitChars 10 digits 0)) := by
  let tree : Tree .sum :=
    .single (.plain (.numeral (Numeral.ofDigits digits nonempty decimal leading)))
  have guarded := evaluateText_guarded (String.ofList digits) tree String.toList_ofList
  exact guarded.accepted.mpr (Nat.zero_le _)

namespace Draft

theorem isDigit_zero : '0'.isDigit = true := rfl

def zero : Draft := ⟨.empty, [], .read (.numeral (.ofDigit '0' isDigit_zero))⟩

private theorem reads_zero : Reads blank ['0'] zero := .step (.digit isDigit_zero) .done

private theorem zero_refuses {digit : Char} (isDigit : digit.isDigit) (after : Draft) :
    ¬ zero.Step digit after := by
  intro step
  cases step with
  | further nonzero => exact nonzero rfl
  | star ahead => simp [ahead] at isDigit
  | sign ahead => simp [ahead, Sign.character_distinct] at isDigit

end Draft

theorem evaluateText_leadingZero {second : Char} (isDigit : second.isDigit) (rest : List Char) :
    (evaluateText (String.ofList ('0' :: second :: rest))).result =
      .error (.rejected ⟨.trailingInput, some second, ⟨1, 2, 1⟩⟩) := by
  have refused : ∀ character others after, second :: rest = character :: others →
      ¬ Draft.zero.Step character after := by
    intro character others after ahead
    cases ahead
    exact Draft.zero_refuses isDigit after
  have stops : Stops (String.ofList ('0' :: second :: rest)).toList Draft.zero (second :: rest) :=
    { spelled := String.toList_ofList
      reads := Draft.reads_zero
      within := Nat.zero_le _
      final := fun character others after ahead step =>
        absurd step (refused character others after ahead) }
  have inLine : atEnd (second :: rest) = false := by
    simp only [atEnd, List.head?_cons, Option.all_some, beq_eq_false_iff_ne]
    rintro rfl
    exact absurd isDigit (by decide)
  exact stops.result_eq (.misfit refused (.inr inLine))

private theorem toDigits_leading (number : Nat) :
    Nat.toDigits 10 number = ['0'] ∨ (Nat.toDigits 10 number).head? ≠ some '0' := by
  induction number using Nat.strongRecOn with
  | ind number ih =>
    by_cases single : number < 10
    · rw [Nat.toDigits_of_lt_base single]
      clear ih
      revert number
      decide
    · have fewer := ih (number / 10) (by omega)
      have front : Nat.toDigits 10 (number / 10) ≠ ['0'] := by
        intro zero
        have value := congrArg (Nat.ofDigitChars 10 · 0) zero
        rw [Nat.ofDigitChars_toDigits (by decide) (by decide)] at value
        have none : Nat.ofDigitChars 10 ['0'] 0 = 0 := rfl
        omega
      refine .inr ?_
      rw [Nat.toDigits_of_base_le (by decide) (Nat.le_of_not_lt single),
        List.head?_append_of_ne_nil _ Nat.toDigits_ne_nil]
      exact fewer.resolve_left front

theorem evaluateText_toString {value : Value} (counts : 0 ≤ value) :
    (evaluateText (toString value)).result = .ok value := by
  obtain ⟨number, counted⟩ := Int.eq_ofNat_of_zero_le (Int64.le_iff_toInt_le.mp counts)
  have written : toString value = String.ofList (Nat.toDigits 10 number) := by
    change toString value.toInt = _
    rw [counted]
    rfl
  have read := evaluateText_digits Nat.toDigits_ne_nil
    (fun _ => Nat.isDigit_of_mem_toDigits (by decide) (by decide)) (toDigits_leading number)
  rw [written, read, Nat.ofDigitChars_toDigits (by decide) (by decide), ← Int64.ofInt_eq_ofNat,
    ← counted, Int64.ofInt_toInt]

/-- What the evaluation of digits comes to, and of any value that is written with them. Behind a
total, digits come to the number that they write behind it. -/
theorem evaluateText_decimal :
    (∀ digits : List Char, digits ≠ [] → (∀ digit ∈ digits, digit.isDigit) →
      (digits = ['0'] ∨ digits.head? ≠ some '0' →
        (evaluateText (String.ofList digits)).result =
          .ok (Int64.ofNat (Nat.ofDigitChars 10 digits 0))) ∧
      ∀ second rest, digits = '0' :: second :: rest →
        (evaluateText (String.ofList digits)).result =
          .error (.rejected ⟨.trailingInput, some second, ⟨1, 2, 1⟩⟩)) ∧
    (∀ value : Value, 0 ≤ value → (evaluateText (toString value)).result = .ok value) ∧
    ∀ (total : Value) (digits : List Char), (∀ digit ∈ digits, digit.isDigit) →
      (digits.foldl Value.appendDigit total).toInt =
        (total.toInt * 10 ^ digits.length + Nat.ofDigitChars 10 digits 0).bmod (2 ^ 64) := by
  refine ⟨fun digits nonempty decimal => ⟨evaluateText_digits nonempty decimal, ?_⟩,
    fun _ => evaluateText_toString, ?_⟩
  · rintro second rest rfl
    exact evaluateText_leadingZero (decimal second (by simp)) rest
  · intro total digits _
    rw [Value.foldl_appendDigit, Int64.toInt_ofInt]
    rfl

/-- A numeral beyond all values, digits behind a zero, the greatest value, and a negative total. -/
theorem evaluateText_decimal_overflow :
    (∀ digit ∈ "18446744073709551621".toList, digit.isDigit) ∧
      "18446744073709551621".toList.head? ≠ some '0' ∧
      (evaluateText "18446744073709551621").result = .ok 5 ∧
      (∀ digit ∈ "075".toList, digit.isDigit) ∧ "075".toList = ['0', '7', '5'] ∧
      (evaluateText "075").result = .error (.rejected ⟨.trailingInput, some '7', ⟨1, 2, 1⟩⟩) ∧
      0 ≤ Int64.maxValue ∧
      (evaluateText (toString Int64.maxValue)).result = .ok Int64.maxValue ∧
      ("075".toList.foldl Value.appendDigit (-1)).toInt = -925 := by
  obtain ⟨numerals, written, appended⟩ := evaluateText_decimal
  have large : ∀ digit ∈ "18446744073709551621".toList, digit.isDigit := by simp
  have nonzero : "18446744073709551621".toList.head? ≠ some '0' := by simp
  have small : ∀ digit ∈ "075".toList, digit.isDigit := by simp
  have spelled : "075".toList = ['0', '7', '5'] := by simp
  have accepted := (numerals _ (by simp) large).1 (.inr nonzero)
  have rejected := (numerals _ (by simp) small).2 '7' ['5'] spelled
  rw [String.ofList_toList] at accepted rejected
  refine ⟨large, nonzero, ?_, small, spelled, rejected, by decide, written _ (by decide), ?_⟩
  · exact accepted.trans (by cbv)
  · exact (appended (-1) _ small).trans (by cbv)

end Reckon
