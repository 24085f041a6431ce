import Reckon.Proofs.Causes
import Reckon.Proofs.Denotation

/-! Where a rule stops. A word that derives from a nonterminal is what its rule reads only
if the character behind the word is none that the rule would have gone on with. The
parts of a word then stop where the words of their own nonterminals stop. -/

namespace Reckon

theorem lastDigits_cut {character : Char} (noDigit : character.isDigit = false)
    (front back : List Char) : lastDigits (front ++ character :: back) = lastDigits back := by
  have cut : (character :: front.reverse).takeWhile Char.isDigit = [] := by simp [noDigit]
  simp only [lastDigits, List.reverse_append, List.reverse_cons, List.append_assoc,
    List.singleton_append, List.takeWhile_append, cut, List.append_nil]
  split
  · rename_i all
    rw [(List.takeWhile_prefix _).eq_of_length all]
  · rfl

/-- What follows the word is no digit of the numeral that it ends in. -/
def Finished (word rest : List Char) : Prop :=
  ∀ digit, rest.head? = some digit → digit.isDigit → lastDigits word = [] ∨ lastDigits word = ['0']

namespace Finished

variable {head tail rest : List Char} {character : Char}

theorem nil : Finished [] rest := fun _ _ _ => .inl rfl

theorem cons_iff (noDigit : character.isDigit = false) :
    Finished (character :: tail) rest ↔ Finished tail rest := by
  rw [Finished, Finished, ← List.nil_append (character :: tail), lastDigits_cut noDigit]

theorem append_iff
    (noDigit : ∀ character, tail.head? = some character → character.isDigit = false) :
    Finished (head ++ tail) rest ↔ Finished head (tail ++ rest) ∧ Finished tail rest := by
  cases tail with
  | nil => simp [nil]
  | cons character tail =>
    have other := noDigit character rfl
    have front : Finished head (character :: tail ++ rest) := by
      intro digit ahead isDigit
      cases ahead
      rw [other] at isDigit
      cases isDigit
    rw [cons_iff other, Finished, lastDigits_cut other]
    exact (and_iff_right front).symm

end Finished

/-- Behind the word the rule would have gone on with a star. -/
def Nonterminal.TakesStar : Nonterminal → (word : List Char) → Prop
  | sum, _ => True
  | signedTerms, word => word ≠ []
  | term, _ => True
  | exponent, _ => True
  | operand, _ => False
  | numeral, _ => False

/-- Behind its word the rule would have gone on with a sign. -/
def Nonterminal.TakesSign : Nonterminal → Prop
  | sum => True
  | signedTerms => True
  | _ => False

/-- At this depth the word is what is to be read in front of `rest`, and nothing more. -/
structure Fits (nonterminal : Nonterminal) (depth : Nat) (word : List Char) (value : Value)
    (rest : List Char) : Prop where
  denotes : ∃ nesting, Denotes nonterminal word value nesting ∧ depth + nesting ≤ nestingLimit
  digit : Finished word rest
  star : nonterminal.TakesStar word → rest.head? ≠ some '*'
  sign : nonterminal.TakesSign → ∀ sign : Sign, rest.head? ≠ some sign.character

namespace Denotes

variable {tail : List Char} {value : Value} {nesting : Nat}

private theorem exponent_head (denotes : Denotes .exponent tail value nesting) :
    ∀ character, tail.head? = some character → character.isDigit = false := by
  cases denotes with
  | noPower => nofun
  | power =>
    rintro _ ⟨⟩
    rfl

private theorem signedTerms_head (denotes : Denotes .signedTerms tail value nesting) :
    tail = [] ∨ ∃ sign others, tail = Sign.character sign :: others := by
  rcases denotes.signedTerms_cases with ⟨rfl, _⟩ | ⟨sign, _, _, _, _, _, _, rfl, _⟩
  · exact .inl rfl
  · exact .inr ⟨sign, _, rfl⟩

end Denotes

namespace Fits

variable {depth : Nat} {word head tail rest : List Char} {value a b : Value}

theorem numeral_iff : Fits .numeral depth word value rest ↔ ∃ numeral : Numeral,
    word = numeral.digits ∧ value = Int64.ofNat numeral.toNat ∧ depth ≤ nestingLimit ∧
      Finished word rest := by
  constructor
  · intro fits
    obtain ⟨_, denotes, shallow⟩ := fits.denotes
    cases denotes with
    | numeral numeral => exact ⟨numeral, rfl, rfl, shallow, fits.digit⟩
  · rintro ⟨numeral, rfl, rfl, shallow, digit⟩
    exact ⟨⟨0, .numeral numeral, shallow⟩, digit, nofun, nofun⟩

theorem operand_iff : Fits .operand depth word value rest ↔
    (∃ inside, word = '(' :: (inside ++ [')']) ∧
      Fits .sum (depth + 1) inside value (')' :: rest)) ∨
    Fits .numeral depth word value rest := by
  constructor
  · intro fits
    obtain ⟨_, denotes, shallow⟩ := fits.denotes
    cases denotes with
    | @group inside _ nesting inner =>
      refine .inl ⟨inside, rfl, ⟨nesting, inner, by omega⟩, ?_, ?_, ?_⟩
      · intro digit ahead isDigit
        cases ahead
        cases isDigit
      · intro _ ahead
        cases ahead
      · intro _ sign ahead
        exact (Sign.character_distinct sign).2.1 (Option.some.inj ahead).symm
    | number numeral => exact .inr ⟨⟨_, numeral, shallow⟩, fits.digit, nofun, nofun⟩
  · rintro (⟨inside, rfl, fits⟩ | fits)
    · obtain ⟨nesting, inner, shallow⟩ := fits.denotes
      refine ⟨⟨nesting + 1, .group inner, by omega⟩, ?_, nofun, nofun⟩
      intro _ _ _
      rw [← List.cons_append, lastDigits_cut rfl]
      exact .inl rfl
    · obtain ⟨nesting, numeral, shallow⟩ := fits.denotes
      exact ⟨⟨nesting, .number numeral, shallow⟩, fits.digit, nofun, nofun⟩

theorem exponent_iff : Fits .exponent depth word value rest ↔
    word = [] ∧ value = 1 ∧ depth ≤ nestingLimit ∧ rest.head? ≠ some '*' ∨
    ∃ chain, word = '*' :: '*' :: chain ∧ Fits .term (depth + 1) chain value rest := by
  constructor
  · intro fits
    obtain ⟨_, denotes, shallow⟩ := fits.denotes
    have digit := fits.digit
    cases denotes with
    | noPower => exact .inl ⟨rfl, rfl, shallow, fits.star trivial⟩
    | power base exponent =>
      rw [Finished.cons_iff rfl, Finished.cons_iff rfl] at digit
      exact .inr ⟨_, rfl, ⟨_, .term base exponent, by omega⟩, digit, fits.star, nofun⟩
  · rintro (⟨rfl, rfl, shallow, star⟩ | ⟨chain, rfl, fits⟩)
    · exact ⟨⟨0, .noPower, shallow⟩, .nil, fun _ => star, nofun⟩
    · obtain ⟨_, denotes, shallow⟩ := fits.denotes
      have digit : Finished ('*' :: '*' :: chain) rest :=
        (Finished.cons_iff rfl).mpr ((Finished.cons_iff rfl).mpr fits.digit)
      cases denotes with
      | term base exponent =>
        exact ⟨⟨_, .power base exponent, by omega⟩, digit, fits.star, nofun⟩

theorem term_iff : Fits .term depth word value rest ↔ ∃ head tail a b,
    word = head ++ tail ∧ value = Value.power a b ∧ Fits .operand depth head a (tail ++ rest) ∧
      Fits .exponent depth tail b rest := by
  constructor
  · intro fits
    obtain ⟨_, denotes, shallow⟩ := fits.denotes
    cases denotes with
    | @term head a n tail b m base exponent =>
      obtain ⟨front, back⟩ := (Finished.append_iff exponent.exponent_head).mp fits.digit
      exact ⟨head, tail, a, b, rfl, (Value.power_eq a b).symm,
        ⟨⟨n, base, by omega⟩, front, nofun, nofun⟩,
        ⟨⟨m, exponent, by omega⟩, back, fits.star, nofun⟩⟩
  · rintro ⟨head, tail, a, b, rfl, rfl, base, exponent⟩
    obtain ⟨n, baseDenotes, baseShallow⟩ := base.denotes
    obtain ⟨m, exponentDenotes, exponentShallow⟩ := exponent.denotes
    have digit :=
      (Finished.append_iff exponentDenotes.exponent_head).mpr ⟨base.digit, exponent.digit⟩
    exact ⟨⟨max n m, baseDenotes.raise exponentDenotes, by omega⟩, digit, exponent.star, nofun⟩

/-- A term and the signed terms behind it, as both of the rules for sums have them. -/
theorem terms_iff {n m : Nat} (first : Denotes .term head a n)
    (others : Denotes .signedTerms tail b m) :
    Fits .term depth head a (tail ++ rest) ∧ Fits .signedTerms depth tail b rest ↔
      depth + max n m ≤ nestingLimit ∧ Finished (head ++ tail) rest ∧ rest.head? ≠ some '*' ∧
        ∀ sign : Sign, rest.head? ≠ some sign.character := by
  have noDigit : ∀ character, tail.head? = some character → character.isDigit = false := by
    rcases others.signedTerms_head with rfl | ⟨sign, _, rfl⟩
    · nofun
    · rintro _ ⟨⟩
      exact sign.character_distinct.2.2
  constructor
  · rintro ⟨front, back⟩
    obtain ⟨n', first', shallow⟩ := front.denotes
    obtain ⟨m', others', shallow'⟩ := back.denotes
    obtain ⟨_, rfl⟩ := first.unique first'
    obtain ⟨_, rfl⟩ := others.unique others'
    refine ⟨by omega, (Finished.append_iff noDigit).mpr ⟨front.digit, back.digit⟩, ?_,
      back.sign trivial⟩
    by_cases empty : tail = []
    · subst empty
      exact front.star trivial
    · exact back.star empty
  · rintro ⟨shallow, digit, star, sign⟩
    obtain ⟨front, back⟩ := (Finished.append_iff noDigit).mp digit
    refine ⟨⟨⟨n, first, by omega⟩, front, fun _ => ?_, nofun⟩,
      ⟨⟨m, others, by omega⟩, back, fun _ => star, fun _ => sign⟩⟩
    rcases others.signedTerms_head with rfl | ⟨sign, _, rfl⟩
    · exact star
    · exact fun ahead => sign.character_distinct.1 (Option.some.inj ahead)

theorem signedTerms_iff : Fits .signedTerms depth word value rest ↔
    word = [] ∧ value = 0 ∧ depth ≤ nestingLimit ∧
      (∀ sign : Sign, rest.head? ≠ some sign.character) ∨
    ∃ sign head tail a b, word = Sign.character sign :: (head ++ tail) ∧
      value = Sign.apply sign 0 a + b ∧ Fits .term depth head a (tail ++ rest) ∧
        Fits .signedTerms depth tail b rest := by
  constructor
  · intro fits
    obtain ⟨_, denotes, shallow⟩ := fits.denotes
    have digit := fits.digit
    rcases denotes.signedTerms_cases with
      ⟨rfl, rfl, rfl⟩ | ⟨sign, head, tail, a, b, n, m, rfl, rfl, rfl, next, others⟩
    · exact .inl ⟨rfl, rfl, shallow, fits.sign trivial⟩
    · rw [Finished.cons_iff sign.character_distinct.2.2] at digit
      exact .inr ⟨sign, head, tail, a, b, rfl, rfl, (terms_iff next others).mpr
        ⟨shallow, digit, fits.star (List.cons_ne_nil _ _), fits.sign trivial⟩⟩
  · rintro (⟨rfl, rfl, shallow, sign⟩ | ⟨sign, head, tail, a, b, rfl, rfl, next, others⟩)
    · exact ⟨⟨0, .noTerm, shallow⟩, .nil, absurd rfl, fun _ => sign⟩
    · obtain ⟨n, nextDenotes, _⟩ := next.denotes
      obtain ⟨m, othersDenotes, _⟩ := others.denotes
      obtain ⟨shallow, digit, star, noSign⟩ :=
        (terms_iff nextDenotes othersDenotes).mp ⟨next, others⟩
      exact ⟨⟨_, .signed sign nextDenotes othersDenotes, shallow⟩,
        (Finished.cons_iff sign.character_distinct.2.2).mpr digit, fun _ => star, fun _ => noSign⟩

theorem sum_iff : Fits .sum depth word value rest ↔ ∃ head tail a b,
    word = head ++ tail ∧ value = a + b ∧ Fits .term depth head a (tail ++ rest) ∧
      Fits .signedTerms depth tail b rest := by
  constructor
  · intro fits
    obtain ⟨_, denotes, shallow⟩ := fits.denotes
    cases denotes with
    | @sum head a n tail b m first others =>
      exact ⟨head, tail, a, b, rfl, by simp, (terms_iff first others).mpr
        ⟨shallow, fits.digit, fits.star trivial, fits.sign trivial⟩⟩
  · rintro ⟨head, tail, a, b, rfl, rfl, first, others⟩
    obtain ⟨n, firstDenotes, _⟩ := first.denotes
    obtain ⟨m, othersDenotes, _⟩ := others.denotes
    obtain ⟨shallow, digit, star, sign⟩ :=
      (terms_iff firstDenotes othersDenotes).mp ⟨first, others⟩
    exact ⟨⟨_, firstDenotes.add othersDenotes, shallow⟩, digit, fun _ => star, fun _ => sign⟩

end Fits

end Reckon
