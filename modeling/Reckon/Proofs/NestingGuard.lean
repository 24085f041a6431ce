import Reckon.Proofs.Levels
import Reckon.Proofs.Misfit

namespace Reckon

/-- The line begins with `read`, which could become an expression, and the last of
`read` opens one level more than is allowed. -/
structure Breach (line read : List Char) : Prop where
  front : read <+: line
  viable : ∃ more, Derives .sum (read ++ more)
  opens : ['('] <:+ read ∨ ['*', '*'] <:+ read
  live : liveLevels read = nestingLimit + 1

structure FirstBreach (line read : List Char) : Prop where
  breach : Breach line read
  shortest : ∀ other, Breach line other → read.length ≤ other.length

namespace Draft

theorem Step.opens_of_deep (step : Step draft character after)
    (within : draft.nesting ≤ nestingLimit) (deep : nestingLimit < after.live) :
    after.live = nestingLimit + 1 ∧
      (character = '(' ∧ ['('] <:+ after.text ∨ character = '*' ∧ ['*', '*'] <:+ after.text) := by
  have before := draft.live_le_nesting
  rcases step.live_cases with shallow | ⟨live, group | ⟨star, operand, stage⟩⟩
  · omega
  · refine ⟨by omega, .inl ⟨group, ?_⟩⟩
    rw [step.text, group]
    exact List.suffix_append ..
  · refine ⟨by omega, .inr ⟨star, ?_⟩⟩
    rcases draft with ⟨layer, outer, _⟩
    cases stage
    rw [step.text]
    exact stars_suffix_concat.mpr ⟨star, (endsStarred layer outer operand).1⟩

end Draft

namespace Stops

variable {text : String} {draft after : Draft} {character : Char} {rest : List Char}

theorem behind (stops : Stops text.toList draft (character :: rest))
    (step : draft.Step character after) :
    Draft.Reads .blank after.text after ∧ text.toList = after.text ++ rest := by
  rw [step.text]
  exact ⟨stops.reads.concat step, by simp [stops.spelled]⟩

theorem breach (stops : Stops text.toList draft (character :: rest))
    (step : draft.Step character after) : Breach (firstLine text) after.text := by
  obtain ⟨reads, spelled⟩ := stops.behind step
  obtain ⟨live, opens⟩ := step.opens_of_deep stops.within (stops.final _ _ _ rfl step)
  refine ⟨?_, Draft.Reads.viable_iff.mp ⟨after, reads⟩, ?_, reads.liveLevels_eq.trans live⟩
  · rw [reads.firstLine spelled]
    exact List.prefix_append ..
  · exact opens.imp And.right And.right

theorem result (stops : Stops text.toList draft (character :: rest))
    (step : draft.Step character after) :
    character = '(' ∧ (evaluateText text).result = .error (.rejected
        ⟨.tooDeep nestingLimit, some '(', ⟨1, after.text.length, after.text.length - 1⟩⟩) ∨
      character = '*' ∧ (evaluateText text).result = .error (.rejected
        ⟨.tooDeep nestingLimit, text.toList[after.text.length]?,
          ⟨1, after.text.length + 1, after.text.length⟩⟩) := by
  obtain ⟨reads, spelled⟩ := stops.behind step
  have deep := stops.final _ _ _ rfl step
  rcases (step.opens_of_deep stops.within deep).2 with ⟨rfl, _⟩ | ⟨rfl, _⟩
  · refine .inl ⟨rfl, ?_⟩
    rw [stops.result_eq (.deepGroup rfl step deep), stops.reads.position]
    simp [step.text]
  · refine .inr ⟨rfl, ?_⟩
    have found : text.toList[after.text.length]? = rest.head? := by
      rw [spelled, List.getElem?_append_right (Nat.le_refl _), Nat.sub_self, List.head?_eq_getElem?]
    rw [stops.result_eq (.deepPower rfl step deep), reads.position, found]

end Stops

theorem Draft.Reads.stops {text read more : List Char} {last : Draft}
    (reads : Reads .blank read last) (spelled : text = read ++ more)
    (deep : nestingLimit < last.nesting) :
    ∃ draft character after rest, Stops text draft (character :: rest) ∧
      draft.Step character after ∧ after.text <+: read := by
  obtain ⟨front, character, back, draft, after, whole, reads', within, step, live⟩ :=
    reads.crossing (Nat.zero_le _) deep
  have before : draft.text = front := reads'.text
  refine ⟨draft, character, after, back ++ more, ⟨?_, ?_, within, ?_⟩, step, back, ?_⟩
  · simp [spelled, whole, before]
  · exact before.symm ▸ reads'
  · intro character' others after' left step'
    cases left
    rw [← step.unique step', live]
    exact Nat.lt_succ_self _
  · simp [step.text, before, whole]

/-- On the way to a breach the text is stopped, by a breach of its own. -/
theorem Breach.stops {text : String} {read : List Char} (breach : Breach (firstLine text) read) :
    ∃ draft character after rest, Stops text.toList draft (character :: rest) ∧
      draft.Step character after ∧ after.text <+: read := by
  obtain ⟨last, reads⟩ := Draft.Reads.viable_iff.mpr breach.viable
  have live := breach.live
  rw [reads.liveLevels_eq] at live
  obtain ⟨more, whole⟩ := breach.front.trans (List.takeWhile_prefix _)
  refine reads.stops whole.symm ?_
  have bound := last.live_le_nesting
  omega

theorem FirstBreach.stops {text : String} {read : List Char}
    (first : FirstBreach (firstLine text) read) :
    ∃ draft character after rest, Stops text.toList draft (character :: rest) ∧
      draft.Step character after ∧ after.text = read := by
  obtain ⟨draft, character, after, rest, stops, step, front⟩ := first.breach.stops
  have least := first.shortest after.text (stops.breach step)
  exact ⟨draft, character, after, rest, stops, step, front.eq_of_length_le least⟩

private theorem FirstBreach.result_of_group {text : String} {read : List Char}
    (first : FirstBreach (firstLine text) read) (opening : ['('] <:+ read) :
    (evaluateText text).result = .error (.rejected
      ⟨.tooDeep nestingLimit, some '(', ⟨1, read.length, read.length - 1⟩⟩) := by
  obtain ⟨draft, character, after, rest, stops, step, rfl⟩ := first.stops
  rw [step.text] at opening
  rcases stops.result step with ⟨_, rejected⟩ | ⟨star, _⟩
  · exact rejected
  · rw [← singleton_suffix_concat.mp opening] at star
    cases star

private theorem FirstBreach.result_of_power {text : String} {read : List Char}
    (first : FirstBreach (firstLine text) read) (stars : ['*', '*'] <:+ read) :
    (evaluateText text).result = .error (.rejected
      ⟨.tooDeep nestingLimit, text.toList[read.length]?,
        ⟨1, read.length + 1, read.length⟩⟩) := by
  obtain ⟨draft, character, after, rest, stops, step, rfl⟩ := first.stops
  rw [step.text] at stars
  rcases stops.result step with ⟨opening, _⟩ | ⟨_, rejected⟩
  · rw [(stars_suffix_concat.mp stars).1] at opening
    cases opening
  · exact rejected

theorem evaluateText_tooDeep {text : String} {limit : Nat} {found : Option Char}
    {position : Position}
    (rejected : (evaluateText text).result = .error (.rejected ⟨.tooDeep limit, found, position⟩)) :
    limit = nestingLimit ∧ ∃ read, Breach (firstLine text) read := by
  obtain ⟨draft, rest, stops, verdict⟩ := evaluateText_verdict text
  rw [rejected] at verdict
  generalize cause : Cause.tooDeep limit = reason at verdict
  cases verdict with
  | misfit =>
    rcases draft with ⟨_, _ | _, _ | _ | _⟩ <;> cases cause
  | deepGroup ahead step =>
    cases cause
    subst ahead
    exact ⟨rfl, _, stops.breach step⟩
  | deepPower ahead step =>
    cases cause
    subst ahead
    exact ⟨rfl, _, stops.breach step⟩

theorem liveLevels_le_nesting {tree : Tree .sum} {read : List Char} (front : read <+: tree.text) :
    liveLevels read ≤ tree.nesting := by
  obtain ⟨more, spelled⟩ := front
  obtain ⟨draft, reads, complete⟩ := Draft.reads_tree tree
  rw [← spelled] at reads
  obtain ⟨middle, reads', others⟩ := reads.split
  rw [reads'.liveLevels_eq, ← Draft.nesting_of_tree? complete]
  exact Nat.le_trans middle.live_le_nesting others.nesting_le

theorem Draft.reads_openings (count : Nat) :
    Reads blank (List.replicate count '(') ⟨.empty, List.replicate count .empty, .awaiting⟩ := by
  induction count with
  | zero => exact .done
  | succ count ih =>
    rw [List.replicate_succ']
    exact ih.concat (.opening rfl)

private theorem liveLevels_openings (count : Nat) :
    liveLevels (List.replicate count '(') = count := by
  rw [(Draft.reads_openings count).liveLevels_eq]
  simp [Draft.live, Layer.empty]

private theorem FirstBreach.openings :
    let openings := List.replicate (nestingLimit + 1) '('
    FirstBreach openings openings where
  breach :=
    { front := List.prefix_refl _
      viable := Draft.Reads.viable_iff.mp ⟨_, Draft.reads_openings _⟩
      opens := .inl ⟨List.replicate nestingLimit '(', List.replicate_succ'.symm⟩
      live := liveLevels_openings _ }
  shortest := by
    intro other breach
    obtain ⟨_, spelled⟩ := List.prefix_replicate_iff.mp breach.front
    have live := breach.live
    rw [spelled, liveLevels_openings] at live
    exact Nat.le_of_eq (List.length_replicate.trans live.symm)

/-- When the guard stops the evaluation of `text`, and with what. -/
structure NestingGuard (text : String) (result : Except EvaluationError Value) : Prop where
  fires : (∃ found position,
      result = .error (.rejected ⟨.tooDeep nestingLimit, found, position⟩)) ↔
    ∃ read, Breach (firstLine text) read
  limit : ∀ limit found position, result = .error (.rejected ⟨.tooDeep limit, found, position⟩) →
    limit = nestingLimit
  group : ∀ read, FirstBreach (firstLine text) read → ['('] <:+ read →
    result = .error (.rejected ⟨.tooDeep nestingLimit, some '(', ⟨1, read.length, read.length - 1⟩⟩)
  power : ∀ read, FirstBreach (firstLine text) read → ['*', '*'] <:+ read →
    result = .error (.rejected ⟨.tooDeep nestingLimit, text.toList[read.length]?,
      ⟨1, read.length + 1, read.length⟩⟩)
  allowed : ∀ tree : Tree .sum, firstLine text <+: tree.text → tree.nesting ≤ nestingLimit →
    ∀ found position, result ≠ .error (.rejected ⟨.tooDeep nestingLimit, found, position⟩)

/-- The guard stops the evaluation at the first breach and never otherwise. Finished
groups and finished terms leave nothing that counts. -/
theorem evaluateText_nestingGuard (text : String) :
    NestingGuard text (evaluateText text).result ∧
      (∀ read (operand : Tree .operand), liveLevels (read ++ operand.text) = liveLevels read) ∧
      ∀ read (term : Tree .term) sign, EndsAwaiting read → ¬ ['*', '*'] <:+ read →
        liveLevels (read ++ term.text ++ [Sign.character sign]) = liveLevels read := by
  refine ⟨⟨⟨?_, ?_⟩, ?_, ?_, ?_, ?_⟩, liveLevels_operand, ?_⟩
  · intro tooDeep
    obtain ⟨found, position, rejected⟩ := tooDeep
    exact (evaluateText_tooDeep rejected).2
  · intro breached
    obtain ⟨read, breach⟩ := breached
    obtain ⟨draft, character, after, rest, stops, step, _⟩ := breach.stops
    rcases stops.result step with ⟨_, rejected⟩ | ⟨_, rejected⟩
    · exact ⟨_, _, rejected⟩
    · exact ⟨_, _, rejected⟩
  · intro limit found position rejected
    exact (evaluateText_tooDeep rejected).1
  · intro read first opening
    exact first.result_of_group opening
  · intro read first stars
    exact first.result_of_power stars
  · intro tree front shallow found position rejected
    obtain ⟨_, read, breach⟩ := evaluateText_tooDeep rejected
    have bound := liveLevels_le_nesting (breach.front.trans front)
    have live := breach.live
    omega
  · intro read term sign ends noExponent
    exact liveLevels_term ends noExponent term sign

/-- Of parentheses that are only opened, one more than is allowed is too many. -/
theorem evaluateText_nestingGuard_openings :
    (evaluateText (String.ofList (List.replicate (nestingLimit + 1) '('))).result = .error
      (.rejected ⟨.tooDeep nestingLimit, some '(', ⟨1, nestingLimit + 1, nestingLimit⟩⟩) := by
  have line : firstLine (String.ofList (List.replicate (nestingLimit + 1) '(')) =
      List.replicate (nestingLimit + 1) '(' := by
    simp [firstLine]
  have last : ['('] <:+ List.replicate (nestingLimit + 1) '(' :=
    ⟨List.replicate nestingLimit '(', List.replicate_succ'.symm⟩
  have guarded := (evaluateText_nestingGuard
    (String.ofList (List.replicate (nestingLimit + 1) '('))).1.group
  rw [line] at guarded
  simpa only [List.length_replicate, Nat.add_sub_cancel] using guarded _ .openings last

end Reckon
