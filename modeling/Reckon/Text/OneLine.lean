namespace Reckon

theorem toString_words (words : String) : toString words = words := rfl

/-- A line that is ended by its line feed, and by no other. -/
def IsLine (line : String) : Prop := ∃ words, line = words ++ "\n" ∧ '\n' ∉ words.toList

theorem oneLine_toDigits {base : Nat} (wide : 1 < base) (number : Nat) :
    '\n' ∉ Nat.toDigits base number := by
  induction number using Nat.strongRecOn with
  | ind number ih =>
    have digit (figure : Nat) : '\n' ≠ figure.digitChar := (Nat.digitChar_ne '\n' rfl).symm
    rw [Nat.toDigits_eq_if wide]
    split
    · simp [digit number]
    · have fewer : number / base < number := Nat.div_lt_self (by omega) wide
      simp [ih _ fewer, digit (number % base)]

end Reckon
