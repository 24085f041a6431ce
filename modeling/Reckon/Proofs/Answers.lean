import Reckon.Proofs.ReadAhead

/-! What an evaluation makes of the answers to its reads. Whatever the source is, the result
is that of the characters that were answered, up to the first answer that is no character of
an expression. A read that fails leaves an evaluation without a result only where the
characters before it could not have been all. -/

namespace Reckon

variable {σ : Type} [CharStream σ]

/-- What a read is answered with; no character at the end of the input. -/
abbrev Answer := Except ReadError (Option Char)

namespace Answer

def characters (characters : List Char) : List Answer :=
  characters.map fun character => .ok (some character)

theorem characters_concat (read : List Char) (character : Char) :
    characters (read ++ [character]) = characters read ++ [.ok (some character)] :=
  List.map_append

def returned (answers : List Answer) : List Char :=
  answers.filterMap fun
    | .ok answer => answer
    | .error _ => none

theorem returned_append (answers more : List Answer) :
    returned (answers ++ more) = returned answers ++ returned more :=
  List.filterMap_append ..

def failures (answers : List Answer) : List ReadError :=
  answers.filterMap fun
    | .ok _ => none
    | .error error => some error

theorem failures_append (answers more : List Answer) :
    failures (answers ++ more) = failures answers ++ failures more :=
  List.filterMap_append ..

end Answer

/-- Reads of a source, one after the other, have been given these answers. -/
inductive Asked (source : σ) : List Answer → σ → Prop where
  | nothing : Asked source [] source
  | answer (earlier : Asked source answers middle)
      (read : CharStream.next middle = .ok lookahead rest) :
      Asked source (answers ++ [.ok lookahead]) rest
  | failure (earlier : Asked source answers middle)
      (failed : CharStream.next middle = .error error rest) :
      Asked source (answers ++ [.error error]) rest

/-- The answers to so many reads in turn, and the source that they leave. A failure or an end
is an answer like others, and the next read goes on behind it. -/
def CharStream.ask (source : σ) : (reads : Nat) → List Answer × σ
  | 0 => ([], source)
  | reads + 1 =>
    let (earlier, middle) := ask source reads
    match next middle with
    | .ok answer rest => (earlier ++ [.ok answer], rest)
    | .error error rest => (earlier ++ [.error error], rest)

theorem CharStream.asked_ask (source : σ) (reads : Nat) :
    (ask source reads).1.length = reads ∧
      Asked source (ask source reads).1 (ask source reads).2 := by
  induction reads with
  | zero => exact ⟨rfl, .nothing⟩
  | succ reads ih =>
    obtain ⟨length, earlier⟩ := ih
    simp only [ask]
    split <;> rename_i read
    · exact ⟨by simp [length], .answer earlier read⟩
    · exact ⟨by simp [length], .failure earlier read⟩

/-- The evaluation of the text looks for a character behind its last one. -/
def NeedsMore (text : String) : Prop :=
  match (evaluateText text).result with
  | .ok _ => '\n' ∉ text.toList
  | .error (.rejected rejection) => rejection.found = none
  | .error (.unreadable _) => False

/-- What has been consumed and the character ahead settle the result: it is that of any text
that goes on with that character, or that ends if there is none. -/
structure Settles (consumed : List Char) (lookahead : Option Char)
    (result : Except EvaluationError Value) : Prop where
  stops : StopsAt result lookahead
  position : ∀ rejection, result = .error (.rejected rejection) →
    rejection.position = ⟨1, consumed.length + 1, consumed.length⟩
  text : ∀ rest : List Char, rest.head? = lookahead →
    (evaluateText (.ofList (consumed ++ rest))).result = result

/-- What is made of the last answer, when `consumed` is what was answered before it. -/
inductive Judged (consumed : List Char) : Answer → Except EvaluationError Value → Prop where
  | settled (settles : Settles consumed lookahead result) : Judged consumed (.ok lookahead) result
  | failed (needed : NeedsMore (.ofList consumed)) :
      Judged consumed (.error error) (.error (.unreadable error))

theorem Stops.result_ofList {read rest others : List Char} {draft : Draft}
    {result : Except EvaluationError Value} (stops : Stops (read ++ rest) draft others)
    (verdict : Verdict draft others result) :
    (evaluateText (.ofList (read ++ rest))).result = result := by
  refine Stops.result_eq ?_ verdict
  rwa [String.toList_ofList]

private theorem Settles.ofValue {origin scanner : Scanner σ} {draft : Draft} {tree : Tree .sum}
    (top : origin.depth = 0) (complete : draft.tree? = some tree)
    (admitted : Admitted origin draft scanner) (ended : scanner.isAtEnd = true) :
    Settles draft.text scanner.lookahead (.ok tree.value) where
  stops := scanner.stopsAt_of_isAtEnd ended _
  position := nofun
  text := by
    intro rest ahead
    have last : atEnd rest = true := by rwa [atEnd, ahead]
    refine (admitted.stopsAt top rest ?_).result_ofList (.value complete last)
    intro character others after left step
    rw [step.not_atEnd left] at last
    cases last

private theorem Failure.settles {origin scanner : Scanner σ} {rejection : Rejection}
    (failure : Failure origin (.rejected rejection) scanner) (start : origin.position = .start)
    (top : origin.depth = 0) :
    ∃ draft, Progress origin draft scanner ∧
      Settles draft.text scanner.lookahead (.error (.rejected rejection)) := by
  obtain ⟨draft, progress, found, position, due⟩ := failure.due start top
  refine ⟨draft, progress, found, ?_, ?_⟩
  · rintro _ ⟨⟩
    rw [position, progress.position, start, progress.reads.position]
  · intro rest ahead
    obtain ⟨last, others, stops, verdict⟩ := due rest ahead
    exact stops.result_ofList verdict

/-- Where a read fails, all that was consumed is no more than the beginning of an input: as
the whole of it, the evaluation would look for more. -/
theorem NeedsMore.ofStep {origin scanner : Scanner σ} {draft after : Draft} {character : Char}
    (top : origin.depth = 0) (admitted : Admitted origin draft scanner)
    (step : draft.Step character after)
    (shallow : character = '(' → origin.depth + after.live ≤ nestingLimit) :
    NeedsMore (.ofList after.text) := by
  have reads : Draft.Reads .blank after.text after :=
    step.text ▸ admitted.progress.reads.concat step
  have within := admitted.within
  rw [top, Nat.zero_add] at within shallow
  unfold NeedsMore
  by_cases deep : nestingLimit < after.live
  · have power : character = '*' := by
      have before := draft.live_le_nesting
      rcases step.live_cases with level | ⟨_, group | ⟨star, _⟩⟩
      · omega
      · exact absurd (shallow group) (Nat.not_le_of_lt deep)
      · exact star
    subst power
    have stops := admitted.stopsAt_step top step (by rwa [top, Nat.zero_add]) []
    rw [step.text, stops.result_ofList (.deepPower rfl step deep)]
    rfl
  · have grown := step.nesting
    have stops : Stops (after.text ++ []) after [] :=
      ⟨rfl, reads, by omega, nofun⟩
    cases complete : after.tree? with
    | some tree =>
      have result := stops.result_ofList (.value complete rfl)
      rw [List.append_nil] at result
      rw [result, String.toList_ofList]
      exact fun feed => (reads.inAlphabet _ feed).ne_lineFeed rfl
    | none =>
      have result := stops.result_ofList (.misfit nofun (.inl complete))
      rw [List.append_nil] at result
      rw [result]
      rfl

/-- The answers to the reads on the way to a scanner. -/
private theorem Progress.asked {source rest : σ} {lookahead : Option Char} {draft : Draft}
    {scanner : Scanner σ} (read : CharStream.next source = .ok lookahead rest)
    (progress : Progress ⟨rest, lookahead, .start, 0, []⟩ draft scanner) :
    Asked source (Answer.characters draft.text ++ [.ok scanner.lookahead]) scanner.source := by
  have asked := progress.answered (fun answers => Asked source (answers.map .ok)) ?_
    (.answer .nothing read)
  · simpa [Answer.characters, Function.comp_def] using asked
  · intro answers middle answer last earlier read
    rw [List.map_append]
    exact .answer earlier read

theorem Conclusion.judged {source rest : σ} {lookahead : Option Char} {evaluation : Evaluation σ}
    (read : CharStream.next source = .ok lookahead rest)
    (concluded : Conclusion ⟨rest, lookahead, .start, 0, []⟩ evaluation) :
    ∃ last, Asked source (Answer.characters evaluation.consumed ++ [last]) evaluation.source ∧
      Judged evaluation.consumed last evaluation.result := by
  cases concluded with
  | @value draft tree scanner complete admitted ended =>
    rw [admitted.progress.consumed_log rfl rfl]
    exact ⟨_, admitted.progress.asked read, .settled (.ofValue rfl complete admitted ended)⟩
  | @failure error scanner failure =>
    cases error with
    | rejected rejection =>
      obtain ⟨draft, progress, settles⟩ := failure.settles rfl rfl
      rw [progress.consumed_log rfl rfl]
      exact ⟨_, progress.asked read, .settled settles⟩
    | unreadable error =>
      cases failure with
      | @unreadable draft before character after _ left admitted ahead step shallow failed depth =>
        have told : (Evaluation.mk (.error (.unreadable error)) left
            (.failed (.unreadable error) :: .consumed character before.position.column ::
              before.events).reverse).consumed = after.text := by
          simp [Evaluation.consumed, Event.consumed?, step.text,
            admitted.progress.consumed_events rfl]
        have asked := admitted.progress.asked read
        rw [ahead, ← Answer.characters_concat, ← step.text] at asked
        rw [told]
        exact ⟨.error error, .failure asked failed, .failed (.ofStep rfl admitted step shallow)⟩

/-- Whatever the source is, an evaluation asks for the characters that it consumes and for
one answer more, and these answers settle what comes of it. -/
theorem evaluate_judged (source : σ) :
    let evaluation := evaluate source
    ∃ last, Asked source (Answer.characters evaluation.consumed ++ [last]) evaluation.source ∧
      Judged evaluation.consumed last evaluation.result := by
  intro evaluation
  cases read : CharStream.next source with
  | ok lookahead rest => exact (evaluate_concludes read).judged read
  | error error rest =>
    have failed : evaluation = ⟨.error (.unreadable error), rest, []⟩ := by
      dsimp only [evaluation]
      rw [evaluate, Scanner.ofSource, read]
    rw [failed]
    refine ⟨.error error, .failure .nothing read, .failed ?_⟩
    have stops : Stops ([] ++ []) .blank [] :=
      ⟨rfl, .done, Nat.zero_le _, fun _ _ _ ahead => absurd ahead.symm (List.cons_ne_nil _ _)⟩
    have result := stops.result_ofList
      (.misfit (fun _ _ _ ahead => absurd ahead.symm (List.cons_ne_nil _ _)) (.inl rfl))
    rw [List.append_nil] at result
    rw [NeedsMore, Evaluation.consumed, List.filterMap_nil, result]
    rfl

end Reckon
