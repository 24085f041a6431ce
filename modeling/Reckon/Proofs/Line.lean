import Reckon.Expression.Evaluate
import Reckon.Proofs.Production
import Reckon.Proofs.Progress

namespace Reckon

theorem Position.afterAll_inAlphabet {characters : List Char}
    (known : ∀ character ∈ characters, InAlphabet character) (position : Position) :
    position.afterAll characters = ⟨position.line, position.column + characters.length,
      position.offset + characters.length⟩ := by
  induction characters generalizing position with
  | nil => rfl
  | cons character characters ih =>
    have first := known character List.mem_cons_self
    have step : position.after character =
        ⟨position.line, position.column + 1, position.offset + 1⟩ := by
      rw [after, if_neg first.ne_lineFeed, first.utf8Size]
    have others := ih (fun other member => known other (List.mem_cons_of_mem _ member))
      (position.after character)
    rw [step] at others
    rw [afterAll, List.foldl_cons, step]
    simpa [afterAll, Nat.add_assoc, Nat.add_comm 1] using others

theorem Draft.Reads.position {draft : Draft} {read : List Char} (reads : Reads .blank read draft) :
    Position.start.afterAll read = ⟨1, read.length + 1, read.length⟩ := by
  rw [Position.afterAll_inAlphabet reads.inAlphabet]
  simp [Position.start, Nat.add_comm 1]

/-- A draft that the text begins with, and that its next character does not continue. -/
structure Stops (text : List Char) (draft : Draft) (rest : List Char) : Prop where
  spelled : text = draft.text ++ rest
  reads : Draft.Reads .blank draft.text draft
  within : draft.nesting ≤ nestingLimit
  final : ∀ character others after, rest = character :: others → draft.Step character after →
    nestingLimit < after.live

namespace Stops

private theorem not_before {text : List Char} {draft other : Draft} {rest rest' more : List Char}
    (first : Stops text draft rest) (second : Stops text other rest')
    (longer : other.text = draft.text ++ more) (left : rest = more ++ rest') :
    draft = other ∧ rest = rest' := by
  have reads := second.reads
  rw [longer] at reads
  obtain ⟨middle, front, back⟩ := reads.split
  have same := front.unique first.reads
  subst same
  cases back with
  | done => exact ⟨rfl, left⟩
  | step head tail =>
    have deep := first.final _ _ _ left head
    have bound := Nat.le_trans tail.nesting_le second.within
    have grown := head.nesting
    omega

theorem unique {text : List Char} {draft other : Draft} {rest rest' : List Char}
    (first : Stops text draft rest) (second : Stops text other rest') :
    draft = other ∧ rest = rest' := by
  have same := first.spelled.symm.trans second.spelled
  rcases List.append_eq_append_iff.mp same with ⟨more, longer, left⟩ | ⟨more, longer, left⟩
  · exact first.not_before second longer left
  · obtain ⟨draft, rest⟩ := second.not_before first longer left
    exact ⟨draft.symm, rest.symm⟩

end Stops

def atEnd (rest : List Char) : Bool := rest.head?.all (· == '\n')

theorem Draft.Step.not_atEnd {draft after : Draft} {character : Char} {rest others : List Char}
    (step : draft.Step character after) (left : rest = character :: others) :
    atEnd rest = false := by
  simp [atEnd, left, step.inAlphabet.ne_lineFeed]

/-- What is made of a draft in front of the rest of a text. -/
inductive Verdict (draft : Draft) (rest : List Char) : Except EvaluationError Value → Prop where
  | value (complete : draft.tree? = some tree) (ended : atEnd rest = true) :
      Verdict draft rest (.ok tree.value)
  | misfit (refused : ∀ character others after, rest = character :: others →
        ¬ draft.Step character after)
      (incomplete : draft.tree? = none ∨ atEnd rest = false) :
      Verdict draft rest (.error (.rejected
        ⟨draft.cause .start, rest.head?, Position.start.afterAll draft.text⟩))
  | deepGroup (ahead : rest = '(' :: others) (step : draft.Step '(' after)
      (deep : nestingLimit < after.live) :
      Verdict draft rest (.error (.rejected
        ⟨.tooDeep nestingLimit, some '(', Position.start.afterAll draft.text⟩))
  | deepPower (ahead : rest = '*' :: others) (step : draft.Step '*' after)
      (deep : nestingLimit < after.live) :
      Verdict draft rest (.error (.rejected
        ⟨.tooDeep nestingLimit, others.head?, Position.start.afterAll after.text⟩))

theorem next_text (source : List Char) :
    CharStream.next source = .ok source.head? source.tail := by
  cases source <;> rfl

namespace Scanner

def ofText : List Char → Scanner (List Char)
  | [] => ⟨[], none, .start, 0, []⟩
  | character :: rest => ⟨rest, some character, .start, 0, []⟩

theorem ofSource_text (text : List Char) : ofSource text = .ok (.ofText text) := by
  cases text <;> rfl

private theorem position_ofText (text : List Char) : (ofText text).position = .start := by
  cases text <;> rfl

theorem depth_ofText (text : List Char) : (ofText text).depth = 0 := by
  cases text <;> rfl

def pending (scanner : Scanner (List Char)) : List Char :=
  scanner.lookahead.toList ++ scanner.source

def Fresh (scanner : Scanner (List Char)) : Prop :=
  scanner.lookahead = none → scanner.source = []

theorem Fresh.head?_pending {scanner : Scanner (List Char)} (fresh : scanner.Fresh) :
    scanner.pending.head? = scanner.lookahead := by
  unfold pending
  cases ahead : scanner.lookahead with
  | none => simp [fresh ahead]
  | some character => rfl

private theorem Fresh.atEnd_pending {scanner : Scanner (List Char)} (fresh : scanner.Fresh) :
    atEnd scanner.pending = scanner.isAtEnd := by
  rw [atEnd, fresh.head?_pending, isAtEnd]

end Scanner

theorem Progress.pending {text : List Char} {draft : Draft} {scanner : Scanner (List Char)}
    (progress : Progress (.ofText text) draft scanner) :
    text = draft.text ++ scanner.pending ∧ scanner.Fresh := by
  induction progress with
  | start =>
    cases text with
    | nil => exact ⟨rfl, fun _ => rfl⟩
    | cons character rest => exact ⟨rfl, fun absent => nomatch absent⟩
  | @step draft scanner character after lookahead source _ ahead step read _ ih =>
    obtain ⟨spelled, _⟩ := ih
    cases held : scanner.source with
    | nil =>
      rw [held] at read
      cases read
      exact ⟨by simpa [Scanner.pending, ahead, held, step.text] using spelled, fun _ => rfl⟩
    | cons next others =>
      rw [held] at read
      cases read
      refine ⟨by simpa [Scanner.pending, ahead, held, step.text] using spelled, ?_⟩
      intro absent
      cases absent

variable {σ : Type} [CharStream σ]

/-- From the top, a draft within the limit is where a text stops that does not go on with it. -/
theorem Admitted.stopsAt {origin scanner : Scanner σ} {draft : Draft}
    (admitted : Admitted origin draft scanner) (top : origin.depth = 0) (rest : List Char)
    (final : ∀ character others after, rest = character :: others → draft.Step character after →
      nestingLimit < after.live) : Stops (draft.text ++ rest) draft rest where
  spelled := rfl
  reads := admitted.progress.reads
  within := by simpa [top] using admitted.within
  final := final

/-- A draft stops a text in front of the one step that is too deep. -/
theorem Admitted.stopsAt_step {origin scanner : Scanner σ} {draft after : Draft} {character : Char}
    (admitted : Admitted origin draft scanner) (top : origin.depth = 0)
    (step : draft.Step character after) (deep : nestingLimit < origin.depth + after.live)
    (others : List Char) :
    Stops (draft.text ++ character :: others) draft (character :: others) := by
  refine admitted.stopsAt top _ ?_
  intro character' others' after' left step'
  cases left
  rw [top, Nat.zero_add] at deep
  exact step.unique step' ▸ deep

/-- A rejection is due in every text that goes on with what the scanner has ahead. -/
theorem Failure.due {origin scanner : Scanner σ} {rejection : Rejection}
    (failure : Failure origin (.rejected rejection) scanner) (start : origin.position = .start)
    (top : origin.depth = 0) : ∃ draft, Progress origin draft scanner ∧
      rejection.found = scanner.lookahead ∧ rejection.position = scanner.position ∧
      ∀ rest : List Char, rest.head? = scanner.lookahead → ∃ last others,
        Stops (draft.text ++ rest) last others ∧
          Verdict last others (.error (.rejected rejection)) := by
  cases failure with
  | @misfit draft _ admitted refused incomplete =>
    refine ⟨draft, admitted.progress, rfl, rfl, ?_⟩
    intro rest ahead
    have refused' : ∀ character others after, rest = character :: others →
        ¬ draft.Step character after := by
      rintro character others after rfl
      exact refused character after ahead.symm
    refine ⟨draft, rest, admitted.stopsAt top rest ?_, ?_⟩
    · intro character others after left step
      exact absurd step (refused' character others after left)
    · rw [Scanner.rejection, admitted.progress.position, start, ← ahead]
      exact .misfit refused' (by rwa [atEnd, ahead])
  | @deepGroup draft _ after admitted ahead step deep =>
    refine ⟨draft, admitted.progress, rfl, rfl, ?_⟩
    intro rest ahead'
    obtain ⟨others, rfl⟩ := List.head?_eq_some_iff.mp (ahead'.trans ahead)
    refine ⟨draft, _, admitted.stopsAt_step top step deep others, ?_⟩
    rw [top, Nat.zero_add] at deep
    rw [Scanner.rejection, admitted.progress.position, start, ahead]
    exact .deepGroup rfl step deep
  | @deepPower draft before after _ admitted step progress deep =>
    refine ⟨after, progress, rfl, rfl, ?_⟩
    intro rest ahead
    rw [step.text, List.append_assoc]
    refine ⟨draft, _, admitted.stopsAt_step top step deep rest, ?_⟩
    rw [top, Nat.zero_add] at deep
    rw [Scanner.rejection, progress.position, start, ← ahead]
    exact .deepPower rfl step deep

theorem Failure.verdict {text : List Char} {error : EvaluationError} {scanner : Scanner (List Char)}
    (failure : Failure (.ofText text) error scanner) :
    ∃ draft rest, Stops text draft rest ∧ Verdict draft rest (.error error) := by
  cases error with
  | rejected rejection =>
    obtain ⟨draft, progress, _, _, due⟩ :=
      failure.due (Scanner.position_ofText text) (Scanner.depth_ofText text)
    obtain ⟨spelled, fresh⟩ := progress.pending
    rw [spelled]
    exact due scanner.pending fresh.head?_pending
  | unreadable error =>
    cases failure with
    | unreadable _ _ _ _ failed =>
      rw [next_text] at failed
      cases failed

/-- Every text is stopped somewhere, and evaluated as is due there. -/
theorem evaluateText_verdict (text : String) : ∃ draft rest,
    Stops text.toList draft rest ∧ Verdict draft rest (evaluateText text).result := by
  have shallow : (Scanner.ofText text.toList).depth ≤ nestingLimit := by
    rw [Scanner.depth_ofText]
    exact Nat.zero_le _
  have met := Grammar.line_reads (.ofText text.toList) shallow
  simp only [evaluateText, evaluate, Scanner.ofSource_text]
  change Meets _ _ (Grammar.line (.ofText text.toList)).outcome at met
  cases outcome : (Grammar.line (.ofText text.toList)).outcome with
  | ok value scanner =>
    rw [outcome] at met
    obtain ⟨draft, tree, complete, rfl, admitted, ended⟩ := met
    obtain ⟨spelled, fresh⟩ := admitted.progress.pending
    rw [← fresh.atEnd_pending] at ended
    have stops := admitted.stopsAt (Scanner.depth_ofText _) scanner.pending ?_
    · rw [← spelled] at stops
      exact ⟨draft, scanner.pending, stops, .value complete ended⟩
    · intro character others after left step
      rw [step.not_atEnd left] at ended
      cases ended
  | error error scanner =>
    rw [outcome] at met
    exact met.verdict

theorem evaluateText_decided (text : String) :
    (∃ value, (evaluateText text).result = .ok value) ∨
      ∃ rejection, (evaluateText text).result = .error (.rejected rejection) := by
  obtain ⟨draft, rest, _, verdict⟩ := evaluateText_verdict text
  generalize (evaluateText text).result = result at verdict ⊢
  cases verdict with
  | value => exact .inl ⟨_, rfl⟩
  | misfit => exact .inr ⟨_, rfl⟩
  | deepGroup => exact .inr ⟨_, rfl⟩
  | deepPower => exact .inr ⟨_, rfl⟩

theorem evaluateText_readable (text : String) (error : ReadError) :
    (evaluateText text).result ≠ .error (.unreadable error) := by
  rcases evaluateText_decided text with ⟨_, accepted⟩ | ⟨_, rejected⟩
  · rw [accepted]
    nofun
  · rw [rejected]
    nofun

/-- What a text is evaluated for. -/
def firstLine (text : String) : List Char := text.toList.takeWhile (· != '\n')

theorem Draft.Reads.firstLine {text : String} {draft : Draft} {read rest : List Char}
    (reads : Draft.Reads .blank read draft) (spelled : text.toList = read ++ rest) :
    firstLine text = read ++ rest.takeWhile (· != '\n') := by
  rw [Reckon.firstLine, spelled]
  refine List.takeWhile_append_of_pos fun character member => ?_
  simpa using (reads.inAlphabet character member).ne_lineFeed

theorem takeWhile_of_atEnd {rest : List Char} (ended : atEnd rest = true) :
    rest.takeWhile (· != '\n') = [] := by
  cases rest with
  | nil => rfl
  | cons character others =>
    have same : character = '\n' := by simpa [atEnd] using ended
    simp [same]

private theorem atEnd_dropWhile (characters : List Char) :
    atEnd (characters.dropWhile (· != '\n')) = true := by
  induction characters with
  | nil => rfl
  | cons character characters ih =>
    by_cases feed : character = '\n'
    · simp [feed, atEnd]
    · simpa [feed] using ih

theorem firstLine_eq {text : String} {line rest : List Char} (oneLine : '\n' ∉ line)
    (spelled : text.toList = line ++ rest) (ended : atEnd rest = true) : firstLine text = line := by
  have inLine : ∀ character ∈ line, (character != '\n') = true := by
    intro character member
    simp only [bne_iff_ne]
    rintro rfl
    exact oneLine member
  rw [firstLine, spelled, List.takeWhile_append_of_pos inLine, takeWhile_of_atEnd ended,
    List.append_nil]

theorem Stops.ofTree {text : String} {tree : Tree .sum}
    (spelled : tree.text = Reckon.firstLine text) (shallow : tree.nesting ≤ nestingLimit) :
    ∃ draft rest,
      Stops text.toList draft rest ∧ draft.tree? = some tree ∧ atEnd rest = true := by
  obtain ⟨draft, reads, complete⟩ := Draft.reads_tree tree
  have ended := atEnd_dropWhile text.toList
  refine ⟨draft, text.toList.dropWhile (· != '\n'), ⟨?_, ?_, ?_, ?_⟩, complete, ended⟩
  · rw [← Draft.tree?_text complete, spelled]
    exact List.takeWhile_append_dropWhile.symm
  · rwa [← Draft.tree?_text complete]
  · rwa [Draft.nesting_of_tree? complete]
  · intro character others after left step
    rw [step.not_atEnd left] at ended
    cases ended

private theorem Verdict.eq_ok {draft : Draft} {rest : List Char} {tree : Tree .sum}
    {result : Except EvaluationError Value} (verdict : Verdict draft rest result)
    (complete : draft.tree? = some tree) (ended : atEnd rest = true) : result = .ok tree.value := by
  cases verdict with
  | value complete' =>
    rw [complete] at complete'
    cases complete'
    rfl
  | misfit _ incomplete => simp [complete, ended] at incomplete
  | deepGroup ahead step =>
    rw [step.not_atEnd ahead] at ended
    cases ended
  | deepPower ahead step =>
    rw [step.not_atEnd ahead] at ended
    cases ended

theorem Verdict.unique {draft : Draft} {rest : List Char}
    {result other : Except EvaluationError Value}
    (first : Verdict draft rest result) (second : Verdict draft rest other) : result = other := by
  cases first with
  | value complete ended => exact (second.eq_ok complete ended).symm
  | misfit refused incomplete =>
    cases second with
    | value complete ended => simp [complete, ended] at incomplete
    | misfit => rfl
    | deepGroup ahead step => exact absurd step (refused _ _ _ ahead)
    | deepPower ahead step => exact absurd step (refused _ _ _ ahead)
  | deepGroup ahead step =>
    cases second with
    | value complete ended =>
      rw [step.not_atEnd ahead] at ended
      cases ended
    | misfit refused => exact absurd step (refused _ _ _ ahead)
    | deepGroup => rfl
    | deepPower ahead' =>
      rw [ahead] at ahead'
      cases ahead'
  | deepPower ahead step =>
    cases second with
    | value complete ended =>
      rw [step.not_atEnd ahead] at ended
      cases ended
    | misfit refused => exact absurd step (refused _ _ _ ahead)
    | deepGroup ahead' =>
      rw [ahead] at ahead'
      cases ahead'
    | deepPower ahead' step' =>
      rw [ahead] at ahead'
      cases ahead'
      rw [step.unique step']

theorem Stops.result_eq {text : String} {draft : Draft} {rest : List Char}
    {result : Except EvaluationError Value} (stops : Stops text.toList draft rest)
    (verdict : Verdict draft rest result) : (evaluateText text).result = result := by
  obtain ⟨draft', rest', stops', verdict'⟩ := evaluateText_verdict text
  obtain ⟨rfl, rfl⟩ := stops.unique stops'
  exact verdict'.unique verdict

/-- The first line of a text that has a value is an expression with that value. -/
theorem evaluateText_accepted {text : String} {value : Value}
    (accepted : (evaluateText text).result = .ok value) : ∃ tree : Tree .sum,
      tree.text = firstLine text ∧ tree.nesting ≤ nestingLimit ∧ tree.value = value := by
  obtain ⟨draft, rest, stops, verdict⟩ := evaluateText_verdict text
  rw [accepted] at verdict
  cases verdict with
  | @value tree complete ended =>
    refine ⟨tree, ?_, Draft.nesting_of_tree? complete ▸ stops.within, rfl⟩
    rw [stops.reads.firstLine stops.spelled, takeWhile_of_atEnd ended, List.append_nil]
    exact Draft.tree?_text complete

/-- What stands behind the first line makes no difference to its value. -/
theorem evaluateText_firstLine {text other : String} {value : Value}
    (same : firstLine other = firstLine text) (accepted : (evaluateText text).result = .ok value) :
    (evaluateText other).result = .ok value := by
  obtain ⟨tree, spelled, shallow, rfl⟩ := evaluateText_accepted accepted
  obtain ⟨draft, rest, stops, complete, ended⟩ := Stops.ofTree (spelled.trans same.symm) shallow
  exact stops.result_eq (.value complete ended)

/-- A text has a value exactly if its first line derives from the grammar and is not
nested too deep. The value is the meaning of the line. -/
theorem evaluateText_eq_ok_iff (text : String) (value : Value) :
    (evaluateText text).result = .ok value ↔
      Derives .sum (firstLine text) ∧ ∃ tree : Tree .sum,
        tree.text = firstLine text ∧ tree.nesting ≤ nestingLimit ∧ tree.meaning = value := by
  obtain ⟨draft, rest, stops, verdict⟩ := evaluateText_verdict text
  constructor
  · intro accepted
    rw [accepted] at verdict
    cases verdict with
    | @value tree complete ended =>
      have spelled : tree.text = firstLine text := by
        rw [stops.reads.firstLine stops.spelled, takeWhile_of_atEnd ended, List.append_nil]
        exact Draft.tree?_text complete
      refine ⟨Derives.sum_iff.mpr ⟨tree, spelled⟩, tree, spelled, ?_, tree.value_eq_meaning.symm⟩
      exact Draft.nesting_of_tree? complete ▸ stops.within
  · intro derived
    obtain ⟨_, tree, spelled, shallow, meant⟩ := derived
    obtain ⟨draft', rest', stops', complete, ended⟩ := Stops.ofTree spelled shallow
    obtain ⟨rfl, rfl⟩ := stops.unique stops'
    generalize (evaluateText text).result = result at verdict ⊢
    cases verdict with
    | value complete' =>
      rw [complete] at complete'
      cases complete'
      rw [← meant, Tree.value_eq_meaning]
    | misfit _ incomplete => simp [complete, ended] at incomplete
    | deepGroup ahead step =>
      rw [step.not_atEnd ahead] at ended
      cases ended
    | deepPower ahead step =>
      rw [step.not_atEnd ahead] at ended
      cases ended

end Reckon
