import Mathlib
import Reckon.Proofs.Line

namespace Reckon

theorem Derives.reads {word : List Char} (derivation : Derives .sum word) :
    ∃ draft tree, Draft.Reads .blank word draft ∧ draft.tree? = some tree := by
  obtain ⟨tree, rfl⟩ := Derives.sum_iff.mp derivation
  obtain ⟨draft, reads, complete⟩ := Draft.reads_tree tree
  exact ⟨draft, tree, reads, complete⟩

/-- What can be read is the beginning of an expression, and nothing else is. -/
theorem Draft.Reads.viable_iff {read : List Char} :
    (∃ draft, Draft.Reads .blank read draft) ↔ ∃ more, Derives .sum (read ++ more) := by
  constructor
  · intro readable
    obtain ⟨draft, reads⟩ := readable
    obtain ⟨more, after, tree, reads', complete⟩ := draft.completion
    refine ⟨more, Derives.sum_iff.mpr ⟨tree, ?_⟩⟩
    rw [Draft.tree?_text complete, (reads.trans reads').text]
    rfl
  · intro begun
    obtain ⟨more, derivation⟩ := begun
    obtain ⟨_, _, reads, _⟩ := derivation.reads
    obtain ⟨draft, front, _⟩ := reads.split
    exact ⟨draft, front⟩

/-- Where and why a text is rejected, when it is not for its nesting. -/
theorem evaluateText_misfit {text : String} {rejection : Rejection}
    (rejected : (evaluateText text).result = .error (.rejected rejection))
    (shallow : ∀ limit, rejection.cause ≠ .tooDeep limit) :
    ∃ draft rest, Stops text.toList draft rest ∧
      (∀ character others after, rest = character :: others → ¬ draft.Step character after) ∧
      (draft.tree? = none ∨ atEnd rest = false) ∧
      rejection = ⟨draft.cause .start, rest.head?,
        ⟨1, draft.text.length + 1, draft.text.length⟩⟩ := by
  obtain ⟨draft, rest, stops, verdict⟩ := evaluateText_verdict text
  rw [rejected] at verdict
  cases verdict with
  | misfit refused incomplete =>
    refine ⟨draft, rest, stops, refused, incomplete, ?_⟩
    rw [stops.reads.position]
  | deepGroup => exact absurd rfl (shallow nestingLimit)
  | deepPower => exact absurd rfl (shallow nestingLimit)

/-- The rejection points at the character behind `read`, the first with which no
expression begins any more. -/
structure FirstMisfit (text : List Char) (rejection : Rejection) (read rest : List Char) :
    Prop where
  spelled : text = read ++ rest
  position : rejection.position = ⟨1, read.length + 1, read.length⟩
  found : rejection.found = rest.head?
  inAlphabet : ∀ character ∈ read, InAlphabet character
  viable : ∃ more, Derives .sum (read ++ more)
  unfinished : rejection.found = none ∨ rejection.found = some '\n' → ¬ Derives .sum read
  fatal : ∀ character, rejection.found = some character → character ≠ '\n' →
    ∀ more, ¬ Derives .sum (read ++ character :: more)

/-- A rejection that is not for the nesting stands at the first misfit. -/
theorem rejection_firstMisfit (text : String) (rejection : Rejection)
    (rejected : (evaluateText text).result = .error (.rejected rejection))
    (shallow : ∀ limit, rejection.cause ≠ .tooDeep limit) :
    ∃ read rest, FirstMisfit text.toList rejection read rest := by
  obtain ⟨draft, rest, stops, refused, incomplete, rfl⟩ := evaluateText_misfit rejected shallow
  refine ⟨draft.text, rest, stops.spelled, rfl, rfl, stops.reads.inAlphabet,
    Draft.Reads.viable_iff.mp ⟨draft, stops.reads⟩, ?_, ?_⟩
  · intro ended derivation
    obtain ⟨other, tree, reads, complete⟩ := derivation.reads
    rw [reads.unique stops.reads] at complete
    have last : atEnd rest = true := by
      rcases ended with absent | feed
      · exact congrArg (Option.all (· == '\n')) absent
      · exact congrArg (Option.all (· == '\n')) feed
    simp [complete, last] at incomplete
  · intro character found _ more derivation
    obtain ⟨others, left⟩ := List.head?_eq_some_iff.mp found
    obtain ⟨_, _, reads, _⟩ := derivation.reads
    obtain ⟨middle, front, back⟩ := reads.split
    rw [front.unique stops.reads] at back
    cases back with
    | step step _ => exact refused character others _ left step

/-- At the second operand of a sum, a star must have a partner. -/
theorem rejection_firstMisfit_loneStar :
    (evaluateText "(1+2)+3*4").result = .error (.rejected ⟨.loneStar, some '4', ⟨1, 9, 8⟩⟩) ∧
      ∃ read rest, FirstMisfit "(1+2)+3*4".toList ⟨.loneStar, some '4', ⟨1, 9, 8⟩⟩ read rest :=
  ⟨by cbv, rejection_firstMisfit _ _ (by cbv) nofun⟩

end Reckon
