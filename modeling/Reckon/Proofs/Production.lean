import Reckon.Expression.Tree

/-! The grammar of expressions as productions, and the trees as its derivations. The
productions put further terms and further exponents to the right, whereas in a tree
sums lean to the left. -/

namespace Reckon

inductive Nonterminal where
  | sum
  | signedTerms
  | term
  | exponent
  | operand
  | numeral
deriving DecidableEq, Repr

/-- The texts that a nonterminal derives:

    sum         = term signedTerms
    signedTerms = '+' term signedTerms | '-' term signedTerms | nothing
    term        = operand exponent
    exponent    = '*' '*' operand exponent | nothing
    operand     = '(' sum ')' | numeral
    numeral     = '0' | nonzero digit, then digits -/
inductive Derives : Nonterminal → List Char → Prop where
  | sum (first : Derives .term head) (others : Derives .signedTerms tail) :
      Derives .sum (head ++ tail)
  | plus (next : Derives .term head) (others : Derives .signedTerms tail) :
      Derives .signedTerms ('+' :: (head ++ tail))
  | minus (next : Derives .term head) (others : Derives .signedTerms tail) :
      Derives .signedTerms ('-' :: (head ++ tail))
  | noTerm : Derives .signedTerms []
  | term (base : Derives .operand head) (exponent : Derives .exponent tail) :
      Derives .term (head ++ tail)
  | power (base : Derives .operand head) (exponent : Derives .exponent tail) :
      Derives .exponent ('*' :: '*' :: (head ++ tail))
  | noPower : Derives .exponent []
  | group (inner : Derives .sum inside) : Derives .operand ('(' :: (inside ++ [')']))
  | number (numeral : Derives .numeral word) : Derives .operand word
  | zero : Derives .numeral ['0']
  | digits (isDigit : first.isDigit) (nonzero : first ≠ '0')
      (decimal : ∀ digit ∈ rest, digit.isDigit) : Derives .numeral (first :: rest)

namespace Derives

/-- What a derived text is the text of. Further terms and exponents are texts only
together with what they follow. -/
private def Spelled : Nonterminal → List Char → Prop
  | .sum, word => ∃ tree : Tree .sum, tree.text = word
  | .signedTerms, word => ∀ front : Tree .sum, ∃ tree : Tree .sum, tree.text = front.text ++ word
  | .term, word => ∃ tree : Tree .term, tree.text = word
  | .exponent, word => ∀ base : Tree .operand, ∃ tree : Tree .term, tree.text = base.text ++ word
  | .operand, word => ∃ tree : Tree .operand, tree.text = word
  | .numeral, word => ∃ numeral : Numeral, numeral.digits = word

private theorem spelled (derivation : Derives nonterminal word) : Spelled nonterminal word := by
  induction derivation with
  | sum _ _ first others =>
    obtain ⟨term, rfl⟩ := first
    exact others (.single term)
  | plus _ _ next others =>
    intro front
    obtain ⟨term, rfl⟩ := next
    obtain ⟨tree, same⟩ := others (.signed front .plus term)
    exact ⟨tree, by simp [same, Tree.text, Sign.character]⟩
  | minus _ _ next others =>
    intro front
    obtain ⟨term, rfl⟩ := next
    obtain ⟨tree, same⟩ := others (.signed front .minus term)
    exact ⟨tree, by simp [same, Tree.text, Sign.character]⟩
  | noTerm => exact fun front => ⟨front, by simp⟩
  | term _ _ base exponent =>
    obtain ⟨operand, rfl⟩ := base
    exact exponent operand
  | power _ _ base exponent =>
    intro front
    obtain ⟨operand, rfl⟩ := base
    obtain ⟨tree, same⟩ := exponent operand
    exact ⟨.power front tree, by simp [same, Tree.text]⟩
  | noPower => exact fun base => ⟨.plain base, by simp [Tree.text]⟩
  | group _ inner =>
    obtain ⟨tree, rfl⟩ := inner
    exact ⟨.group tree, rfl⟩
  | number _ numeral =>
    obtain ⟨numeral, rfl⟩ := numeral
    exact ⟨.numeral numeral, rfl⟩
  | zero => exact ⟨⟨['0'], .inl rfl⟩, rfl⟩
  | @digits first rest isDigit nonzero decimal =>
    have all : ∀ digit ∈ first :: rest, digit.isDigit := by
      intro digit member
      rcases List.mem_cons.mp member with rfl | later
      · exact isDigit
      · exact decimal digit later
    exact ⟨⟨first :: rest, .inr ⟨first, rest, rfl, nonzero, all⟩⟩, rfl⟩

private theorem signedTerms_append {tail word : List Char} {sign : Sign}
    (terms : Derives .signedTerms tail) (last : Derives .term word) :
    Derives .signedTerms (tail ++ sign.character :: word) := by
  generalize kind : Nonterminal.signedTerms = nonterminal at terms
  induction terms with
  | noTerm =>
    have alone := List.append_nil word
    cases sign
    · exact alone ▸ .plus last .noTerm
    · exact alone ▸ .minus last .noTerm
  | plus next _ _ ih => simpa using Derives.plus next (ih kind)
  | minus next _ _ ih => simpa using Derives.minus next (ih kind)
  | _ => cases kind

theorem ofNumeral (numeral : Numeral) : Derives .numeral numeral.digits := by
  rcases numeral.wellFormed with zero | ⟨first, rest, spelled, nonzero, decimal⟩
  · exact zero ▸ .zero
  · rw [spelled] at decimal ⊢
    exact .digits (decimal first List.mem_cons_self) nonzero
      fun digit member => decimal digit (List.mem_cons_of_mem _ member)

mutual

theorem ofOperand : (tree : Tree .operand) → Derives .operand tree.text
  | .numeral numeral => .number (ofNumeral numeral)
  | .group inner => by
    obtain ⟨head, tail, first, others, same⟩ := ofSum inner
    rw [Tree.text, same]
    exact .group (.sum first others)

private theorem ofTerm : (tree : Tree .term) → Derives .term tree.text
  | .plain base => by simpa [Tree.text] using Derives.term (ofOperand base) .noPower
  | .power base exponent => by
    have whole := ofTerm exponent
    rw [Tree.text]
    generalize exponent.text = word at whole ⊢
    cases whole with
    | term inner others => exact .term (ofOperand base) (.power inner others)

private theorem ofSum : (tree : Tree .sum) → ∃ head tail,
    Derives .term head ∧ Derives .signedTerms tail ∧ tree.text = head ++ tail
  | .single only => ⟨only.text, [], ofTerm only, .noTerm, by simp [Tree.text]⟩
  | .signed front sign last => by
    obtain ⟨head, tail, first, others, same⟩ := ofSum front
    refine ⟨head, tail ++ sign.character :: last.text, first, ?_, by simp [Tree.text, same]⟩
    exact signedTerms_append others (ofTerm last)

end

theorem sum_iff {word : List Char} : Derives .sum word ↔ ∃ tree : Tree .sum, tree.text = word := by
  constructor
  · exact spelled
  · rintro ⟨tree, rfl⟩
    obtain ⟨head, tail, first, others, same⟩ := ofSum tree
    exact same ▸ .sum first others

end Derives

end Reckon
