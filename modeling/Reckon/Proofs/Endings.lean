import Reckon.Proofs.Draft

namespace Reckon

def EndsAwaiting (read : List Char) : Prop :=
  read = [] ∨ ['('] <:+ read ∨ ['+'] <:+ read ∨ ['-'] <:+ read ∨ ['*', '*'] <:+ read

/-- The last character is a star that has no partner. -/
def EndsStarred (read : List Char) : Prop := ['*'] <:+ read ∧ ¬ ['*', '*'] <:+ read

def EndsOperand (read : List Char) : Prop :=
  ∃ before last, read = before ++ [last] ∧ (last.isDigit ∨ last = ')')

theorem singleton_suffix_concat {before : List Char} {character last : Char} :
    [character] <:+ before ++ [last] ↔ character = last := by
  constructor
  · intro ending
    obtain ⟨front, same⟩ := ending
    exact List.singleton_inj.mp (List.append_inj_right' same rfl)
  · rintro rfl
    exact List.suffix_append ..

theorem stars_suffix_concat {before : List Char} {last : Char} :
    ['*', '*'] <:+ before ++ [last] ↔ last = '*' ∧ ['*'] <:+ before := by
  constructor
  · intro ending
    obtain ⟨front, same⟩ := ending
    have split : (front ++ ['*']) ++ ['*'] = before ++ [last] := by simpa using same
    obtain ⟨front', last'⟩ := List.append_inj' split rfl
    exact ⟨(List.singleton_inj.mp last').symm, front, front'⟩
  · rintro ⟨rfl, front, rfl⟩
    exact ⟨front, by simp⟩

theorem EndsOperand.not_other {read : List Char} (ends : EndsOperand read) :
    ¬ EndsAwaiting read ∧ ¬ EndsStarred read := by
  obtain ⟨before, last, rfl, operand⟩ := ends
  have distinct : last ≠ '(' ∧ last ≠ '+' ∧ last ≠ '-' ∧ last ≠ '*' := by
    refine ⟨?_, ?_, ?_, ?_⟩ <;> rintro rfl <;> revert operand <;> decide
  constructor
  · rintro (empty | group | plus | minus | stars)
    · simp at empty
    · exact distinct.1 (singleton_suffix_concat.mp group).symm
    · exact distinct.2.1 (singleton_suffix_concat.mp plus).symm
    · exact distinct.2.2.1 (singleton_suffix_concat.mp minus).symm
    · exact distinct.2.2.2 (stars_suffix_concat.mp stars).1
  · intro starred
    obtain ⟨star, _⟩ := starred
    exact distinct.2.2.2 (singleton_suffix_concat.mp star).symm

theorem EndsStarred.not_awaiting {read : List Char} (ends : EndsStarred read) :
    ¬ EndsAwaiting read := by
  obtain ⟨⟨before, rfl⟩, single⟩ := ends
  rintro (empty | group | plus | minus | stars)
  · simp at empty
  · exact absurd (singleton_suffix_concat.mp group) (by decide)
  · exact absurd (singleton_suffix_concat.mp plus) (by decide)
  · exact absurd (singleton_suffix_concat.mp minus) (by decide)
  · exact single stars

namespace Draft

theorem endsAwaiting (layer : Layer) (outer : List Layer) :
    EndsAwaiting (text ⟨layer, outer, .awaiting⟩) := by
  rcases layer with ⟨front, _ | ⟨base, bases⟩⟩
  · rcases front with _ | ⟨front, sign⟩
    · cases outer with
      | nil => exact .inl rfl
      | cons enclosing outer =>
        have opened : Step ⟨enclosing, outer, .awaiting⟩ '('
            ⟨.empty, enclosing :: outer, .awaiting⟩ := .opening rfl
        exact .inr (.inl ⟨_, opened.text.symm⟩)
    · have signed : [sign.character] <:+ text ⟨⟨some (front, sign), []⟩, outer, .awaiting⟩ :=
        ⟨enclosingText outer ++ front.text, by simp [text, Layer.text, Stage.text]⟩
      cases sign
      · exact .inr (.inr (.inl signed))
      · exact .inr (.inr (.inr (.inl signed)))
  · have star : Step ⟨⟨front, bases⟩, outer, .read base⟩ '*'
        ⟨⟨front, bases⟩, outer, .starred base⟩ := .star rfl
    have second : Step ⟨⟨front, bases⟩, outer, .starred base⟩ '*'
        ⟨⟨front, base :: bases⟩, outer, .awaiting⟩ := .secondStar rfl
    refine .inr (.inr (.inr (.inr ⟨text ⟨⟨front, bases⟩, outer, .read base⟩, ?_⟩)))
    rw [second.text, star.text]
    simp

private theorem operand_endsOperand (operand : Tree .operand) : EndsOperand operand.text := by
  cases operand with
  | group inner => exact ⟨'(' :: inner.text, ')', by simp [Tree.text], .inr rfl⟩
  | numeral numeral =>
    rcases List.eq_nil_or_concat numeral.digits with empty | ⟨before, last, spelled⟩
    · rcases numeral.wellFormed with zero | ⟨_, _, spelled, _, _⟩
      · rw [zero] at empty
        cases empty
      · rw [spelled] at empty
        cases empty
    · rw [List.concat_eq_append] at spelled
      have member : last ∈ numeral.digits := by simp [spelled]
      exact ⟨before, last, spelled, .inl (Numeral.isDigit_of_mem member)⟩

theorem endsOperand (layer : Layer) (outer : List Layer) (operand : Tree .operand) :
    EndsOperand (text ⟨layer, outer, .read operand⟩) := by
  obtain ⟨before, last, spelled, ends⟩ := operand_endsOperand operand
  refine ⟨enclosingText outer ++ layer.text ++ before, last, ?_, ends⟩
  simp [text, Stage.text, spelled]

theorem endsStarred (layer : Layer) (outer : List Layer) (operand : Tree .operand) :
    EndsStarred (text ⟨layer, outer, .starred operand⟩) := by
  have star : Step ⟨layer, outer, .read operand⟩ '*' ⟨layer, outer, .starred operand⟩ := .star rfl
  rw [star.text]
  refine ⟨List.suffix_append .., fun stars => ?_⟩
  have single := (stars_suffix_concat.mp stars).2
  obtain ⟨before, last, spelled, ends⟩ := endsOperand layer outer operand
  rw [spelled] at single
  cases singleton_suffix_concat.mp single
  revert ends
  decide

end Draft

end Reckon
