import Reckon.Proofs.Endings
import Reckon.Proofs.Misfit

namespace Reckon

def lastDigits (read : List Char) : List Char := (read.reverse.takeWhile Char.isDigit).reverse

/-- Where the parentheses without a partner stand, the innermost first, when those
`opened` came before the text and it begins at `offset`. -/
def unmatchedFrom (offset : Nat) (opened : List Nat) : List Char → List Nat
  | [] => opened
  | character :: rest =>
    let opened := if character = '(' then offset :: opened
      else if character = ')' then opened.tail else opened
    unmatchedFrom (offset + 1) opened rest

/-- Where the parentheses of `read` without a partner stand, the innermost first. -/
def unmatched (read : List Char) : List Nat := unmatchedFrom 0 [] read

namespace Draft

/-- Where the groups that are still open begin, the innermost first. -/
def opened : List Layer → List Nat
  | [] => []
  | layer :: outer => (text ⟨layer, outer, .awaiting⟩).length :: opened outer

private theorem not_parenthesis {digit : Char} (isDigit : digit.isDigit) :
    digit ≠ '(' ∧ digit ≠ ')' := by
  constructor
  · rintro rfl
    exact absurd isDigit (by decide)
  · rintro rfl
    exact absurd isDigit (by decide)

private theorem Step.unmatchedFrom_eq (step : Step draft character after) (rest : List Char) :
    unmatchedFrom draft.text.length (opened draft.outer) (character :: rest) =
      unmatchedFrom after.text.length (opened after.outer) rest := by
  have length : after.text.length = draft.text.length + 1 := by simp [step.text]
  have noParenthesis (distinct : character ≠ '(' ∧ character ≠ ')')
      (same : after.outer = draft.outer) :
      unmatchedFrom draft.text.length (opened draft.outer) (character :: rest) =
        unmatchedFrom after.text.length (opened after.outer) rest := by
    simp [unmatchedFrom, distinct, same, length]
  cases step with
  | opening ahead => simp [unmatchedFrom, ahead, length, opened]
  | closing ahead => simp [unmatchedFrom, ahead, length, opened]
  | digit isDigit => exact noParenthesis (not_parenthesis isDigit) rfl
  | further _ isDigit => exact noParenthesis (not_parenthesis isDigit) rfl
  | star ahead => exact noParenthesis (ahead ▸ by decide) rfl
  | secondStar ahead => exact noParenthesis (ahead ▸ by decide) rfl
  | @sign _ sign _ _ _ ahead => cases sign <;> exact noParenthesis (ahead ▸ by decide) rfl

private theorem Reads.unmatchedFrom_eq (reads : Reads draft characters after) :
    unmatchedFrom draft.text.length (opened draft.outer) characters = opened after.outer := by
  induction reads with
  | done => rfl
  | step first _ ih => rw [first.unmatchedFrom_eq, ih]

theorem unmatched_text {draft : Draft} (reads : Reads blank draft.text draft) :
    unmatched draft.text = opened draft.outer :=
  reads.unmatchedFrom_eq

example : unmatched "1+((2)-(".toList = [7, 2] := by cbv

theorem text_of_opened (layer enclosing : Layer) (outer : List Layer) (stage : Stage) :
    text ⟨layer, enclosing :: outer, stage⟩ =
      text ⟨enclosing, outer, .awaiting⟩ ++ '(' :: (layer.text ++ stage.text) := by
  simp [text, enclosingText, Stage.text]

theorem position_of_opened {layer enclosing : Layer} {outer : List Layer} {stage : Stage}
    (reads : Reads blank (text ⟨layer, enclosing :: outer, stage⟩)
      ⟨layer, enclosing :: outer, stage⟩) :
    Position.start.afterAll (text ⟨enclosing, outer, .awaiting⟩) =
      ⟨1, (text ⟨enclosing, outer, .awaiting⟩).length + 1,
        (text ⟨enclosing, outer, .awaiting⟩).length⟩ := by
  rw [text_of_opened] at reads
  obtain ⟨_, front, _⟩ := reads.split
  exact front.position

end Draft

theorem lastDigits_append {before digits : List Char} (awaiting : EndsAwaiting before)
    (decimal : ∀ digit ∈ digits, digit.isDigit) : lastDigits (before ++ digits) = digits := by
  have nothing : before.reverse.takeWhile Char.isDigit = [] := by
    rcases awaiting with rfl | ⟨_, rfl⟩ | ⟨_, rfl⟩ | ⟨_, rfl⟩ | ⟨_, rfl⟩ <;> simp
  rw [lastDigits, List.reverse_append, List.takeWhile_append_of_pos, nothing]
  · simp
  · simpa using decimal

/-- What the text in front of a rejection tells about it. -/
structure CauseTold (rejection : Rejection) (read : List Char) : Prop where
  number : rejection.cause = .expectedNumber ↔ EndsAwaiting read
  star : rejection.cause = .loneStar ↔ EndsStarred read
  otherwise : ¬ EndsAwaiting read → ¬ EndsStarred read → EndsOperand read
  group : ∀ opened, rejection.cause = .unclosedGroup opened ↔ EndsOperand read ∧
    ∃ offset outer, unmatched read = offset :: outer ∧ opened = ⟨1, offset + 1, offset⟩
  earlier : ∀ opened, rejection.cause = .unclosedGroup opened →
    opened.offset < rejection.position.offset ∧ read[opened.offset]? = some '('
  trailing : rejection.cause = .trailingInput ↔ EndsOperand read ∧ unmatched read = []
  complete : rejection.cause = .trailingInput → Derives .sum read
  unused : ∀ character, rejection.cause ≠ .expected character
  digit : rejection.cause = .trailingInput → rejection.found.any Char.isDigit →
    [')'] <:+ read ∨ lastDigits read = ['0']

namespace CauseTold

variable {rejection : Rejection} {read : List Char}

/-- While an operand or a star is missing, no other cause comes into question. -/
theorem ofUnfinished (number : rejection.cause = .expectedNumber ↔ EndsAwaiting read)
    (star : rejection.cause = .loneStar ↔ EndsStarred read)
    (unfinished : EndsAwaiting read ∨ EndsStarred read) : CauseTold rejection read := by
  have noOperand : ¬ EndsOperand read := by
    intro operand
    exact unfinished.elim operand.not_other.1 operand.not_other.2
  have cause := unfinished.imp number.mpr star.mpr
  have noGroup : ∀ opened, rejection.cause ≠ .unclosedGroup opened := by
    rcases cause with cause | cause <;> simp [cause]
  have noTrailing : rejection.cause ≠ .trailingInput := by
    rcases cause with cause | cause <;> simp [cause]
  have unused : ∀ character, rejection.cause ≠ .expected character := by
    rcases cause with cause | cause <;> simp [cause]
  exact
    { number, star, unused
      otherwise := fun noAwaiting noStar => absurd unfinished (not_or.mpr ⟨noAwaiting, noStar⟩)
      group := fun opened => iff_of_false (noGroup opened) fun ending => noOperand ending.1
      earlier := fun opened same => absurd same (noGroup opened)
      trailing := iff_of_false noTrailing fun ending => noOperand ending.1
      complete := fun same => absurd same noTrailing
      digit := fun same => absurd same noTrailing }

private theorem ofAwaiting (cause : rejection.cause = .expectedNumber) (ends : EndsAwaiting read) :
    CauseTold rejection read := by
  refine ofUnfinished (iff_of_true cause ends) (iff_of_false (by simp [cause]) ?_) (.inl ends)
  intro starred
  exact starred.not_awaiting ends

private theorem ofStarred (cause : rejection.cause = .loneStar) (ends : EndsStarred read) :
    CauseTold rejection read :=
  ofUnfinished (iff_of_false (by simp [cause]) ends.not_awaiting) (iff_of_true cause ends)
    (.inr ends)

private theorem ofGroup {offset : Nat} {outer : List Nat}
    (cause : rejection.cause = .unclosedGroup ⟨1, offset + 1, offset⟩) (ends : EndsOperand read)
    (innermost : unmatched read = offset :: outer) (earlier : offset < rejection.position.offset)
    (parenthesis : read[offset]? = some '(') : CauseTold rejection read where
  number := iff_of_false (by simp [cause]) ends.not_other.1
  star := iff_of_false (by simp [cause]) ends.not_other.2
  otherwise := fun _ _ => ends
  group := by
    intro opened
    rw [cause]
    constructor
    · intro same
      cases same
      exact ⟨ends, offset, outer, innermost, rfl⟩
    · intro reason
      obtain ⟨_, offset', outer', innermost', same⟩ := reason
      rw [innermost] at innermost'
      cases innermost'
      rw [same]
  earlier := by
    intro opened same
    rw [cause] at same
    cases same
    exact ⟨earlier, parenthesis⟩
  trailing := by
    refine iff_of_false (by simp [cause]) ?_
    simp [innermost]
  complete := by simp [cause]
  unused := by simp [cause]
  digit := by simp [cause]

private theorem ofTrailing (cause : rejection.cause = .trailingInput) (ends : EndsOperand read)
    (matched : unmatched read = []) (complete : Derives .sum read)
    (digit : rejection.found.any Char.isDigit → [')'] <:+ read ∨ lastDigits read = ['0']) :
    CauseTold rejection read where
  number := iff_of_false (by simp [cause]) ends.not_other.1
  star := iff_of_false (by simp [cause]) ends.not_other.2
  otherwise := fun _ _ => ends
  group := by
    intro opened
    refine iff_of_false (by simp [cause]) ?_
    simp [matched]
  earlier := by simp [cause]
  trailing := iff_of_true cause ⟨ends, matched⟩
  complete := fun _ => complete
  unused := by simp [cause]
  digit := fun _ => digit

end CauseTold

/-- A digit can only be refused behind a group or behind a zero. -/
theorem Draft.refused_digit {layer : Layer} {outer : List Layer} {operand : Tree .operand}
    {digit : Char} (isDigit : digit.isDigit)
    (refused : ∀ after, ¬ Step ⟨layer, outer, .read operand⟩ digit after) :
    [')'] <:+ text ⟨layer, outer, .read operand⟩ ∨
      lastDigits (text ⟨layer, outer, .read operand⟩) = ['0'] := by
  have before : text ⟨layer, outer, .read operand⟩ =
      text ⟨layer, outer, .awaiting⟩ ++ operand.text := by simp [text, Stage.text]
  rw [before]
  cases operand with
  | group inner =>
    refine .inl ⟨text ⟨layer, outer, .awaiting⟩ ++ '(' :: inner.text, ?_⟩
    simp [Tree.text]
  | numeral numeral =>
    by_cases zero : numeral.digits = ['0']
    · refine .inr ?_
      rw [← zero]
      exact lastDigits_append (endsAwaiting layer outer) fun _ => Numeral.isDigit_of_mem
    · exact absurd (.further zero isDigit) (refused _)

/-- The characters before a rejection, when it is not for the nesting, tell its cause. -/
theorem rejection_causeTold (text : String) (rejection : Rejection)
    (rejected : (evaluateText text).result = .error (.rejected rejection))
    (shallow : ∀ limit, rejection.cause ≠ .tooDeep limit) :
    ∃ read rest, text.toList = read ++ rest ∧
      rejection.position = ⟨1, read.length + 1, read.length⟩ ∧ CauseTold rejection read := by
  obtain ⟨draft, rest, stops, refused, incomplete, rfl⟩ := evaluateText_misfit rejected shallow
  refine ⟨draft.text, rest, stops.spelled, rfl, ?_⟩
  have reads := stops.reads
  have matched := Draft.unmatched_text reads
  rcases draft with ⟨layer, outer, _ | operand | operand⟩
  · exact .ofAwaiting rfl (Draft.endsAwaiting layer outer)
  · have ends := Draft.endsOperand layer outer operand
    cases outer with
    | nil =>
      refine .ofTrailing rfl ends matched ?_ ?_
      · exact Derives.sum_iff.mpr ⟨_, Draft.tree?_text rfl⟩
      · intro ahead
        obtain ⟨digit, found, isDigit⟩ := Option.any_eq_true _ _ |>.mp ahead
        obtain ⟨others, left⟩ := List.head?_eq_some_iff.mp found
        exact Draft.refused_digit isDigit fun after => refused digit others after left
    | cons enclosing outer =>
      have spelled := Draft.text_of_opened layer enclosing outer (.read operand)
      refine .ofGroup (congrArg _ (Draft.position_of_opened reads)) ends matched ?_ ?_
      · simp [spelled]
      · simp [spelled]
  · exact .ofStarred rfl (Draft.endsStarred layer outer operand)

/-- A group that holds a finished one is still the one to be closed. -/
theorem rejection_causeTold_unclosedGroup :
    (evaluateText "1+((2)-3").result =
        .error (.rejected ⟨.unclosedGroup ⟨1, 3, 2⟩, none, ⟨1, 9, 8⟩⟩) ∧
      ∃ read rest, "1+((2)-3".toList = read ++ rest ∧
        (⟨1, 9, 8⟩ : Position) = ⟨1, read.length + 1, read.length⟩ ∧
        CauseTold ⟨.unclosedGroup ⟨1, 3, 2⟩, none, ⟨1, 9, 8⟩⟩ read :=
  ⟨by cbv,
    rejection_causeTold "1+((2)-3" ⟨.unclosedGroup ⟨1, 3, 2⟩, none, ⟨1, 9, 8⟩⟩ (by cbv) nofun⟩

end Reckon
