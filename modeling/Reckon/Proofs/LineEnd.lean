import Reckon.Proofs.Line

namespace Reckon

/-- Two results that differ in nothing but the end that was found: the first is that of an
input that ends where in the second a line feed follows. -/
inductive EndsAlike : Except EvaluationError Value → Except EvaluationError Value → Prop where
  | value (value : Value) : EndsAlike (.ok value) (.ok value)
  | character (cause : Cause) (character : Char) (position : Position) :
      EndsAlike (.error (.rejected ⟨cause, some character, position⟩))
        (.error (.rejected ⟨cause, some character, position⟩))
  | lineFeed (cause : Cause) (position : Position) :
      EndsAlike (.error (.rejected ⟨cause, none, position⟩))
        (.error (.rejected ⟨cause, some '\n', position⟩))

private theorem EndsAlike.ofRest (cause : Cause) (rest others : List Char) (position : Position) :
    EndsAlike (.error (.rejected ⟨cause, rest.head?, position⟩))
      (.error (.rejected ⟨cause, (rest ++ '\n' :: others).head?, position⟩)) := by
  cases rest with
  | nil => exact .lineFeed cause position
  | cons character rest => exact .character cause character position

private theorem EndsAlike.unique {result first second : Except EvaluationError Value}
    (alike : EndsAlike result first) (alike' : EndsAlike result second) : first = second := by
  cases alike <;> cases alike' <;> rfl

private theorem atEnd_append_lineFeed (rest others : List Char) :
    atEnd (rest ++ '\n' :: others) = atEnd rest := by
  cases rest <;> rfl

/-- A character that continues a draft is not the line feed, and so it was there before. -/
theorem Draft.Step.ahead_of_lineFeed {draft after : Draft} {character : Char}
    {rest others more : List Char} (step : draft.Step character after)
    (left : rest ++ '\n' :: others = character :: more) :
    ∃ before, rest = character :: before := by
  cases rest with
  | nil =>
    cases left
    exact absurd rfl step.inAlphabet.ne_lineFeed
  | cons first rest =>
    cases left
    exact ⟨rest, rfl⟩

private theorem Stops.lineFeed {line rest : List Char} {draft : Draft}
    (stops : Stops line draft rest)
    (others : List Char) : Stops (line ++ '\n' :: others) draft (rest ++ '\n' :: others) where
  spelled := by rw [stops.spelled, List.append_assoc]
  reads := stops.reads
  within := stops.within
  final := by
    intro character more after left step
    obtain ⟨before, ahead⟩ := step.ahead_of_lineFeed left
    exact stops.final character before after ahead step

/-- In front of a line feed the verdict is the one at the end of the input. -/
theorem Verdict.lineFeed {draft : Draft} {rest : List Char} {result : Except EvaluationError Value}
    (verdict : Verdict draft rest result) (others : List Char) :
    ∃ other, Verdict draft (rest ++ '\n' :: others) other ∧ EndsAlike result other := by
  cases verdict with
  | value complete ended =>
    exact ⟨_, .value complete (by rwa [atEnd_append_lineFeed]), .value _⟩
  | misfit refused incomplete =>
    refine ⟨_, .misfit ?_ (by rwa [atEnd_append_lineFeed]), .ofRest ..⟩
    intro character more after left step
    obtain ⟨before, ahead⟩ := step.ahead_of_lineFeed left
    exact refused character before after ahead step
  | deepGroup ahead step deep =>
    exact ⟨_, .deepGroup (by rw [ahead, List.cons_append]) step deep, .character ..⟩
  | deepPower ahead step deep =>
    exact ⟨_, .deepPower (by rw [ahead, List.cons_append]) step deep, .ofRest ..⟩

theorem evaluateText_endsAlike (line others : String) :
    EndsAlike (evaluateText line).result (evaluateText (line ++ "\n" ++ others)).result := by
  obtain ⟨draft, rest, stops, verdict⟩ := evaluateText_verdict line
  obtain ⟨result, followed, alike⟩ := verdict.lineFeed others.toList
  have spelled : (line ++ "\n" ++ others).toList = line.toList ++ '\n' :: others.toList := by simp
  have stopped := stops.lineFeed others.toList
  rw [← spelled] at stopped
  rwa [stopped.result_eq followed]

/-- A line is evaluated alike whatever stands behind its line feed, and as it is when the
input ends there. -/
theorem evaluateText_lineFeed (line first second : String) :
    (evaluateText (line ++ "\n" ++ first)).result =
        (evaluateText (line ++ "\n" ++ second)).result ∧
      EndsAlike (evaluateText line).result (evaluateText (line ++ "\n" ++ first)).result := by
  have alike := evaluateText_endsAlike line first
  exact ⟨alike.unique (evaluateText_endsAlike line second), alike⟩

example : (evaluateText "(1+2").result =
    .error (.rejected ⟨.unclosedGroup ⟨1, 1, 0⟩, none, ⟨1, 5, 4⟩⟩) := by cbv

example : (evaluateText "(1+2\n)").result =
    .error (.rejected ⟨.unclosedGroup ⟨1, 1, 0⟩, some '\n', ⟨1, 5, 4⟩⟩) := by cbv

end Reckon
