import Reckon.Proofs.Endings
import Reckon.Proofs.Nesting

/-! The levels that are open behind a text, told from its characters alone. They are
counted anew in every group and in every term, and so whatever is finished does not
count. -/

namespace Reckon

/-- The stars in the current term, and in the terms around the groups that are open,
the nearest first. -/
structure Levels where
  current : Nat
  around : List Nat

namespace Levels

def after (levels : Levels) (character : Char) : Levels :=
  match character, levels with
  | '(', ⟨current, around⟩ => ⟨0, current :: around⟩
  | ')', ⟨_, enclosing :: around⟩ => ⟨enclosing, around⟩
  | '+', ⟨_, around⟩ => ⟨0, around⟩
  | '-', ⟨_, around⟩ => ⟨0, around⟩
  | '*', ⟨current, around⟩ => ⟨current + 1, around⟩
  | _, levels => levels

def afterAll (levels : Levels) (characters : List Char) : Levels := characters.foldl after levels

/-- One level for every group, and one for every two stars. -/
def count (levels : Levels) : Nat :=
  levels.current / 2 + (levels.around.map (· / 2)).sum + levels.around.length

theorem after_digit (levels : Levels) {digit : Char} (isDigit : digit.isDigit) :
    levels.after digit = levels := by
  unfold after
  split
  all_goals first | rfl | exact absurd isDigit (by decide)

theorem after_sign (levels : Levels) (sign : Sign) :
    levels.after sign.character = ⟨0, levels.around⟩ := by
  cases sign <;> rfl

theorem afterAll_cons (levels : Levels) (first : Char) (rest : List Char) :
    levels.afterAll (first :: rest) = (levels.after first).afterAll rest := rfl

theorem afterAll_append (levels : Levels) (front back : List Char) :
    levels.afterAll (front ++ back) = (levels.afterAll front).afterAll back :=
  List.foldl_append

theorem afterAll_concat (levels : Levels) (front : List Char) (last : Char) :
    levels.afterAll (front ++ [last]) = (levels.afterAll front).after last :=
  List.foldl_append

private theorem afterAll_digits (levels : Levels) {digits : List Char}
    (decimal : ∀ digit ∈ digits, digit.isDigit) : levels.afterAll digits = levels := by
  induction digits with
  | nil => rfl
  | cons digit digits ih =>
    have first := levels.after_digit (decimal digit List.mem_cons_self)
    have others := ih fun other member => decimal other (List.mem_cons_of_mem _ member)
    rw [afterAll_cons, first, others]

mutual

theorem afterAll_operand : (tree : Tree .operand) → ∀ levels : Levels,
    levels.afterAll tree.text = levels
  | .numeral numeral, levels => levels.afterAll_digits fun _ => Numeral.isDigit_of_mem
  | .group inner, levels => by
    have inside := afterAll_sum inner (levels.after '(')
    rw [Tree.text, afterAll_cons, afterAll_concat]
    generalize (levels.after '(').afterAll inner.text = last at inside ⊢
    rcases last with ⟨stars, around⟩
    cases inside
    rfl

theorem afterAll_term : (tree : Tree .term) → ∀ levels : Levels,
    (levels.afterAll tree.text).around = levels.around
  | .plain base, levels => by rw [Tree.text, afterAll_operand base]
  | .power base exponent, levels => by
    rw [Tree.text, afterAll_append, afterAll_operand base]
    exact afterAll_term exponent ((levels.after '*').after '*')

private theorem afterAll_sum : (tree : Tree .sum) → ∀ levels : Levels,
    (levels.afterAll tree.text).around = levels.around
  | .single term, levels => afterAll_term term levels
  | .signed front sign term, levels => by
    have signed := afterAll_term term ((levels.afterAll front.text).after sign.character)
    rw [after_sign] at signed
    rw [Tree.text, afterAll_append, afterAll_cons, after_sign, signed]
    exact afterAll_sum front levels

end

end Levels

/-- The levels that are open behind `read`. -/
def liveLevels (read : List Char) : Nat := (Levels.afterAll ⟨0, []⟩ read).count

theorem liveLevels_operand (read : List Char) (operand : Tree .operand) :
    liveLevels (read ++ operand.text) = liveLevels read := by
  rw [liveLevels, Levels.afterAll_append, Levels.afterAll_operand]
  rfl

private theorem EndsAwaiting.current {read : List Char} (ends : EndsAwaiting read)
    (noExponent : ¬ ['*', '*'] <:+ read) (levels : Levels) (none : levels.current = 0) :
    (levels.afterAll read).current = 0 := by
  rcases ends with rfl | ⟨front, rfl⟩ | ⟨front, rfl⟩ | ⟨front, rfl⟩ | stars
  · exact none
  · rw [Levels.afterAll_concat]
    rfl
  · rw [Levels.afterAll_concat]
    exact congrArg Levels.current (Levels.after_sign _ .plus)
  · rw [Levels.afterAll_concat]
    exact congrArg Levels.current (Levels.after_sign _ .minus)
  · exact absurd stars noExponent

theorem liveLevels_term {read : List Char} (ends : EndsAwaiting read)
    (noExponent : ¬ ['*', '*'] <:+ read) (term : Tree .term) (sign : Sign) :
    liveLevels (read ++ term.text ++ [sign.character]) = liveLevels read := by
  have before := ends.current noExponent ⟨0, []⟩ rfl
  have around := Levels.afterAll_term term (Levels.afterAll ⟨0, []⟩ read)
  rw [liveLevels, Levels.afterAll_concat, Levels.after_sign, Levels.afterAll_append, around]
  rw [liveLevels, Levels.count, Levels.count, before]

def Stage.stars : Stage → Nat
  | starred _ => 1
  | _ => 0

namespace Draft

/-- The stars of a draft are those behind its bases, and one that has no partner yet. -/
def levels (draft : Draft) : Levels where
  current := 2 * draft.layer.bases.length + draft.stage.stars
  around := draft.outer.map fun layer => 2 * layer.bases.length

private theorem count_levels (draft : Draft) : draft.levels.count = draft.live := by
  rcases draft with ⟨layer, outer, stage⟩
  have current : (2 * layer.bases.length + stage.stars) / 2 = layer.bases.length := by
    have single : stage.stars ≤ 1 := by cases stage <;> simp [Stage.stars]
    omega
  have around : ((outer.map fun layer => 2 * layer.bases.length).map (· / 2)).sum + outer.length =
      (outer.map fun layer => layer.bases.length + 1).sum := by
    induction outer with
    | nil => rfl
    | cons enclosing outer ih =>
      simp only [List.map_cons, List.sum_cons, List.length_cons]
      omega
  simp only [levels, Levels.count, live, current, List.length_map]
  omega

/-- The characters of a step have the effect on the levels that the step has. -/
theorem Step.levels_eq (step : Step draft character after) :
    draft.levels.after character = after.levels := by
  cases step with
  | opening ahead =>
    subst ahead
    rfl
  | digit isDigit => exact Levels.after_digit _ isDigit
  | further _ isDigit => exact Levels.after_digit _ isDigit
  | star ahead =>
    subst ahead
    rfl
  | secondStar ahead =>
    subst ahead
    rfl
  | sign ahead =>
    subst ahead
    exact Levels.after_sign ..
  | closing ahead =>
    subst ahead
    rfl

theorem Reads.levels_eq (reads : Reads draft characters after) :
    draft.levels.afterAll characters = after.levels := by
  induction reads with
  | done => rfl
  | step first _ ih =>
    rw [Levels.afterAll_cons, first.levels_eq, ih]

theorem Reads.liveLevels_eq {read : List Char} (reads : Reads blank read draft) :
    liveLevels read = draft.live := by
  rw [← count_levels, ← reads.levels_eq]
  rfl

end Draft

example : liveLevels "(1)**(2**3+4**(".toList = 4 := by cbv

end Reckon
