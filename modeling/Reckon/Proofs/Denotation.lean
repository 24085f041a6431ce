import Reckon.Proofs.Meaning
import Reckon.Proofs.Production

/-! What every nonterminal denotes. A derived word has a value and a nesting, which the
productions tell from those of its parts, also where the word is no expression of its
own: further terms are added to nothing, and an exponent that is left out is 1. -/

namespace Reckon

/-- The word derives from the nonterminal, with this value and this nesting. Every operation is
done on integers, and its result reduced to the 64 bits of a value. -/
inductive Denotes : Nonterminal → List Char → Value → Nat → Prop where
  | sum (first : Denotes .term head a n) (others : Denotes .signedTerms tail b m) :
      Denotes .sum (head ++ tail) (.ofInt (a.toInt + b.toInt)) (max n m)
  | plus (next : Denotes .term head a n) (others : Denotes .signedTerms tail b m) :
      Denotes .signedTerms ('+' :: (head ++ tail)) (.ofInt (b.toInt + a.toInt)) (max n m)
  | minus (next : Denotes .term head a n) (others : Denotes .signedTerms tail b m) :
      Denotes .signedTerms ('-' :: (head ++ tail)) (.ofInt (b.toInt - a.toInt)) (max n m)
  | noTerm : Denotes .signedTerms [] 0 0
  | term (base : Denotes .operand head a n) (exponent : Denotes .exponent tail b m) :
      Denotes .term (head ++ tail) (if b < 0 then 0 else .ofInt (a.toInt ^ b.toInt.toNat)) (max n m)
  | power (base : Denotes .operand head a n) (exponent : Denotes .exponent tail b m) :
      Denotes .exponent ('*' :: '*' :: (head ++ tail))
        (if b < 0 then 0 else .ofInt (a.toInt ^ b.toInt.toNat)) (max n m + 1)
  | noPower : Denotes .exponent [] 1 0
  | group (inner : Denotes .sum inside a n) :
      Denotes .operand ('(' :: (inside ++ [')'])) a (n + 1)
  | number (numeral : Denotes .numeral word a n) : Denotes .operand word a n
  | numeral (numeral : Numeral) :
      Denotes .numeral numeral.digits (.ofNat numeral.toNat) 0

namespace Sign

theorem apply_zero_add (sign : Sign) (total term : Value) :
    total + sign.apply 0 term = sign.apply total term := by
  rw [← apply_add, Int64.add_zero]

theorem plus_apply_add (term others : Value) :
    plus.apply 0 term + others = .ofInt (others.toInt + term.toInt) := by
  simp [apply, Int64.add_comm]

theorem minus_apply_add (term others : Value) :
    minus.apply 0 term + others = .ofInt (others.toInt - term.toInt) := by
  simp [apply, Int64.sub_eq_add_neg, Int64.add_comm]

end Sign

namespace Tree

theorem term_eq_of_text {first second : Tree .term} (same : first.text = second.text) :
    first = second := by
  have alone : (single first).text = (single second).text := same
  exact single.inj (eq_of_text alone)

private theorem operand_eq_of_text {first second : Tree .operand}
    (same : first.text = second.text) : first = second := by
  have alone : (plain first).text = (plain second).text := same
  exact plain.inj (term_eq_of_text alone)

end Tree

namespace Denotes

variable {nonterminal : Nonterminal} {word head tail : List Char} {value a b : Value}
  {nesting n m : Nat}

theorem add (first : Denotes .term head a n) (others : Denotes .signedTerms tail b m) :
    Denotes .sum (head ++ tail) (a + b) (max n m) := by
  have exact := first.sum others
  rwa [Int64.ofInt_add, Int64.ofInt_toInt, Int64.ofInt_toInt] at exact

theorem signed (sign : Sign) (next : Denotes .term head a n)
    (others : Denotes .signedTerms tail b m) :
    Denotes .signedTerms (sign.character :: (head ++ tail)) (sign.apply 0 a + b) (max n m) := by
  cases sign with
  | plus => exact Sign.plus_apply_add a b ▸ next.plus others
  | minus => exact Sign.minus_apply_add a b ▸ next.minus others

theorem raise (base : Denotes .operand head a n) (exponent : Denotes .exponent tail b m) :
    Denotes .term (head ++ tail) (a.power b) (max n m) :=
  Value.power_eq a b ▸ base.term exponent

theorem signedTerms_cases (denotes : Denotes .signedTerms word value nesting) :
    word = [] ∧ value = 0 ∧ nesting = 0 ∨ ∃ sign head tail a b n m,
      word = Sign.character sign :: (head ++ tail) ∧ value = sign.apply 0 a + b ∧
        nesting = max n m ∧ Denotes .term head a n ∧ Denotes .signedTerms tail b m := by
  cases denotes with
  | noTerm => exact .inl ⟨rfl, rfl, rfl⟩
  | plus next others =>
    exact .inr ⟨.plus, _, _, _, _, _, _, rfl, (Sign.plus_apply_add ..).symm, rfl, next, others⟩
  | minus next others =>
    exact .inr ⟨.minus, _, _, _, _, _, _, rfl, (Sign.minus_apply_add ..).symm, rfl, next, others⟩

theorem derives (denotes : Denotes nonterminal word value nesting) :
    Derives nonterminal word := by
  induction denotes with
  | sum _ _ first others => exact .sum first others
  | plus _ _ next others => exact .plus next others
  | minus _ _ next others => exact .minus next others
  | noTerm => exact .noTerm
  | term _ _ base exponent => exact .term base exponent
  | power _ _ base exponent => exact .power base exponent
  | noPower => exact .noPower
  | group _ inner => exact .group inner
  | number _ numeral => exact .number numeral
  | numeral numeral => exact .ofNumeral numeral

theorem inAlphabet (denotes : Denotes nonterminal word value nesting) :
    ∀ character ∈ word, InAlphabet character := by
  induction denotes with
  | sum _ _ first others => exact List.forall_mem_append.mpr ⟨first, others⟩
  | plus _ _ next others | minus _ _ next others =>
    exact List.forall_mem_cons.mpr ⟨.inr (by simp), List.forall_mem_append.mpr ⟨next, others⟩⟩
  | noTerm => exact List.forall_mem_nil _
  | term _ _ base exponent => exact List.forall_mem_append.mpr ⟨base, exponent⟩
  | power _ _ base exponent =>
    have known : InAlphabet '*' := .inr (by simp)
    exact List.forall_mem_cons.mpr ⟨known, List.forall_mem_cons.mpr
      ⟨known, List.forall_mem_append.mpr ⟨base, exponent⟩⟩⟩
  | noPower => exact List.forall_mem_nil _
  | group _ inner =>
    exact List.forall_mem_cons.mpr ⟨.inr (by simp), List.forall_mem_append.mpr
      ⟨inner, List.forall_mem_singleton.mpr (.inr (by simp))⟩⟩
  | number _ numeral => exact numeral
  | numeral numeral => exact fun _ member => .inl (Numeral.isDigit_of_mem member)

/-- Whatever is derived denotes something. -/
theorem derives_iff :
    Derives nonterminal word ↔ ∃ value nesting, Denotes nonterminal word value nesting := by
  constructor
  · intro derivation
    induction derivation with
    | sum _ _ first others =>
      obtain ⟨_, _, first⟩ := first
      obtain ⟨_, _, others⟩ := others
      exact ⟨_, _, .sum first others⟩
    | plus _ _ next others =>
      obtain ⟨_, _, next⟩ := next
      obtain ⟨_, _, others⟩ := others
      exact ⟨_, _, .plus next others⟩
    | minus _ _ next others =>
      obtain ⟨_, _, next⟩ := next
      obtain ⟨_, _, others⟩ := others
      exact ⟨_, _, .minus next others⟩
    | noTerm => exact ⟨_, _, .noTerm⟩
    | term _ _ base exponent =>
      obtain ⟨_, _, base⟩ := base
      obtain ⟨_, _, exponent⟩ := exponent
      exact ⟨_, _, .term base exponent⟩
    | power _ _ base exponent =>
      obtain ⟨_, _, base⟩ := base
      obtain ⟨_, _, exponent⟩ := exponent
      exact ⟨_, _, .power base exponent⟩
    | noPower => exact ⟨_, _, .noPower⟩
    | group _ inner =>
      obtain ⟨_, _, inner⟩ := inner
      exact ⟨_, _, .group inner⟩
    | number _ numeral =>
      obtain ⟨_, _, numeral⟩ := numeral
      exact ⟨_, _, .number numeral⟩
    | zero => exact ⟨_, _, .numeral ⟨['0'], .inl rfl⟩⟩
    | @digits first rest isDigit nonzero decimal =>
      have all : ∀ digit ∈ first :: rest, digit.isDigit :=
        List.forall_mem_cons.mpr ⟨isDigit, decimal⟩
      exact ⟨_, _, .numeral ⟨first :: rest, .inr ⟨first, rest, rfl, nonzero, all⟩⟩⟩
  · intro denoted
    obtain ⟨_, _, denotes⟩ := denoted
    exact denotes.derives

/-- What is denoted, told by a tree. Further terms are told together with any sum in front
of them. -/
private def Told : Nonterminal → List Char → Value → Nat → Prop
  | .sum, word, value, nesting =>
    ∃ tree : Tree .sum, tree.text = word ∧ tree.value = value ∧ tree.nesting = nesting
  | .signedTerms, word, value, nesting => ∀ front : Tree .sum, ∃ tree : Tree .sum,
    tree.text = front.text ++ word ∧ tree.value = front.value + value ∧
      tree.nesting = max front.nesting nesting
  | .term, word, value, nesting =>
    ∃ tree : Tree .term, tree.text = word ∧ tree.value = value ∧ tree.nesting = nesting
  | .exponent, word, value, nesting => word = [] ∧ value = 1 ∧ nesting = 0 ∨
    ∃ tree : Tree .term, '*' :: '*' :: tree.text = word ∧ tree.value = value ∧
      tree.nesting + 1 = nesting
  | .operand, word, value, nesting =>
    ∃ tree : Tree .operand, tree.text = word ∧ tree.value = value ∧ tree.nesting = nesting
  | .numeral, word, value, nesting =>
    ∃ numeral : Numeral, numeral.digits = word ∧ Int64.ofNat numeral.toNat = value ∧ nesting = 0

private theorem told_term {head tail : List Char} {a b : Value} {n m : Nat}
    (base : Told .operand head a n) (exponent : Told .exponent tail b m) :
    Told .term (head ++ tail) (a.power b) (max n m) := by
  obtain ⟨operand, rfl, rfl, rfl⟩ := base
  rcases exponent with ⟨rfl, rfl, rfl⟩ | ⟨term, rfl, rfl, rfl⟩
  · exact ⟨.plain operand, by simp [Tree.text], by simp [Tree.value], by simp [Tree.nesting]⟩
  · exact ⟨.power operand term, by simp [Tree.text], rfl, rfl⟩

private theorem told_signed (sign : Sign) {head tail : List Char} {a b : Value} {n m : Nat}
    (next : Told .term head a n) (others : Told .signedTerms tail b m) :
    Told .signedTerms (sign.character :: (head ++ tail)) (sign.apply 0 a + b) (max n m) := by
  intro front
  obtain ⟨term, rfl, rfl, rfl⟩ := next
  obtain ⟨tree, text, value, nesting⟩ := others (.signed front sign term)
  refine ⟨tree, by simp [text, Tree.text], ?_, ?_⟩
  · rw [value, Tree.value, ← sign.apply_zero_add, Int64.add_assoc]
  · rw [nesting, Tree.nesting, Nat.max_assoc]

private theorem told (denotes : Denotes nonterminal word value nesting) :
    Told nonterminal word value nesting := by
  induction denotes with
  | sum _ _ first others =>
    obtain ⟨term, rfl, rfl, rfl⟩ := first
    rw [Int64.ofInt_add, Int64.ofInt_toInt, Int64.ofInt_toInt]
    exact others (.single term)
  | plus _ _ next others => exact Sign.plus_apply_add .. ▸ told_signed .plus next others
  | minus _ _ next others => exact Sign.minus_apply_add .. ▸ told_signed .minus next others
  | noTerm => exact fun front => ⟨front, by simp, by simp, by simp⟩
  | term _ _ base exponent => exact Value.power_eq .. ▸ told_term base exponent
  | power _ _ base exponent =>
    obtain ⟨tree, text, value, nesting⟩ := told_term base exponent
    exact .inr ⟨tree, by rw [text], value.trans (Value.power_eq ..), by rw [nesting]⟩
  | noPower => exact .inl ⟨rfl, rfl, rfl⟩
  | group _ inner =>
    obtain ⟨tree, rfl, rfl, rfl⟩ := inner
    exact ⟨.group tree, rfl, rfl, rfl⟩
  | number _ numeral =>
    obtain ⟨numeral, rfl, rfl, rfl⟩ := numeral
    exact ⟨.numeral numeral, rfl, rfl, rfl⟩
  | numeral numeral => exact ⟨numeral, rfl, rfl, rfl⟩

private def zero : Tree .sum := .single (.plain (.numeral (.ofDigit '0' rfl)))

private theorem zero_value : zero.value = 0 := rfl

private theorem zero_nesting : zero.nesting = 0 := rfl

theorem unique {other : Value} {depth : Nat} (first : Denotes nonterminal word value nesting)
    (second : Denotes nonterminal word other depth) : value = other ∧ nesting = depth := by
  have told := first.told
  have told' := second.told
  cases nonterminal with
  | sum =>
    obtain ⟨tree, text, rfl, rfl⟩ := told
    obtain ⟨tree', text', rfl, rfl⟩ := told'
    obtain rfl := Tree.eq_of_text (text.trans text'.symm)
    exact ⟨rfl, rfl⟩
  | signedTerms =>
    -- A zero in front makes an expression of the terms, and adds nothing to them.
    obtain ⟨tree, text, value, nesting⟩ := told zero
    obtain ⟨tree', text', value', nesting'⟩ := told' zero
    obtain rfl := Tree.eq_of_text (text.trans text'.symm)
    rw [value, zero_value, Int64.zero_add, Int64.zero_add] at value'
    rw [nesting, zero_nesting, Nat.zero_max, Nat.zero_max] at nesting'
    exact ⟨value', nesting'⟩
  | term =>
    obtain ⟨tree, text, rfl, rfl⟩ := told
    obtain ⟨tree', text', rfl, rfl⟩ := told'
    obtain rfl := Tree.term_eq_of_text (text.trans text'.symm)
    exact ⟨rfl, rfl⟩
  | exponent =>
    rcases told with ⟨rfl, rfl, rfl⟩ | ⟨tree, rfl, rfl, rfl⟩
    · rcases told' with ⟨_, rfl, rfl⟩ | ⟨tree', text', _⟩
      · exact ⟨rfl, rfl⟩
      · cases text'
    · rcases told' with ⟨text', _⟩ | ⟨tree', text', rfl, rfl⟩
      · cases text'
      · obtain rfl := Tree.term_eq_of_text (List.cons.inj (List.cons.inj text').2).2
        exact ⟨rfl, rfl⟩
  | operand =>
    obtain ⟨tree, text, rfl, rfl⟩ := told
    obtain ⟨tree', text', rfl, rfl⟩ := told'
    obtain rfl := Tree.operand_eq_of_text (text.trans text'.symm)
    exact ⟨rfl, rfl⟩
  | numeral =>
    obtain ⟨numeral, text, rfl, rfl⟩ := told
    obtain ⟨numeral', text', rfl, rfl⟩ := told'
    obtain rfl := Numeral.eq_of_digits (text.trans text'.symm)
    exact ⟨rfl, rfl⟩

end Denotes

end Reckon
