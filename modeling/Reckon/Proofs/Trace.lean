import Reckon.Proofs.ReadFailure

namespace Reckon

namespace Event

/-- The consumption of a text, from the first column on. -/
def spelling (text : List Char) : List Event :=
  (text.zipIdx 1).map fun (character, column) => .consumed character column

def ofResult : Except EvaluationError Value → Event
  | .ok value => .evaluated value
  | .error error => .failed error

theorem spelling_concat (text : List Char) (character : Char) :
    spelling (text ++ [character]) = spelling text ++ [.consumed character (text.length + 1)] := by
  simp [spelling, List.zipIdx_append, Nat.add_comm]

private theorem consumed?_ofResult (result : Except EvaluationError Value) :
    (ofResult result).consumed? = none := by
  cases result <;> rfl

private theorem filterMap_spelling (text : List Char) :
    (spelling text).filterMap consumed? = text := by
  induction text using List.reverseRecOn with
  | nil => rfl
  | append_singleton text character ih =>
    rw [spelling_concat, List.filterMap_append, ih]
    rfl

private theorem length_spelling (text : List Char) : (spelling text).length = text.length := by
  simp [spelling]

theorem severity_spelling {text : List Char} {event : Event} (member : event ∈ spelling text) :
    event.entry.severity = .trace := by
  obtain ⟨_, _, rfl⟩ := List.mem_map.mp member
  rfl

theorem severity_ofResult (result : Except EvaluationError Value) :
    (ofResult result).entry.severity = .debug := by
  cases result <;> rfl

theorem countP_severity (text : List Char) (result : Except EvaluationError Value) :
    (spelling text ++ [ofResult result]).countP (fun event => event.entry.severity = .trace) =
        text.length ∧
      (spelling text ++ [ofResult result]).countP (fun event => event.entry.severity = .debug) =
        1 := by
  have all : (spelling text).countP (fun event => event.entry.severity = .trace) =
      text.length := by
    rw [List.countP_eq_length.mpr fun event member => by simp [severity_spelling member],
      length_spelling]
  have none : (spelling text).countP (fun event => event.entry.severity = .debug) = 0 :=
    List.countP_eq_zero.mpr fun event member => by simp [severity_spelling member]
  simp [List.countP_append, all, none, severity_ofResult]

end Event

/-- The log spells `text`, one entry for each character, and has one entry more for the
result. -/
structure Traced {σ : Type} (text : List Char) (evaluation : Evaluation σ) : Prop where
  log : evaluation.log = Event.spelling text ++ [.ofResult evaluation.result]
  entries : evaluation.log.map Event.entry =
    (text.zipIdx 1).map (fun (character, column) => ⟨.trace, "contas_eval::cursor",
      s!"consume ch={Quotation.ofCharacter character} column={column}"⟩) ++
    [⟨.debug, "contas_eval", match evaluation.result with
      | .ok value => s!"evaluated expression value={value}"
      | .error error => s!"evaluation failed error={error.message}"⟩]
  count : evaluation.log.countP (fun event => event.entry.severity = .trace) = text.length

private theorem Traced.ofLog {σ : Type} {text : List Char} {evaluation : Evaluation σ}
    (log : evaluation.log = Event.spelling text ++ [.ofResult evaluation.result]) :
    Traced text evaluation where
  log := log
  entries := by
    have ending : (Event.ofResult evaluation.result).entry = ⟨.debug, "contas_eval",
        match evaluation.result with
        | .ok value => s!"evaluated expression value={value}"
        | .error error => s!"evaluation failed error={error.message}"⟩ := by
      cases evaluation.result <;> rfl
    rw [log, List.map_append, List.map_singleton, ending, Event.spelling, List.map_map]
    rfl
  count := by rw [log, (Event.countP_severity text _).1]

/-- The log ends with the failure, and tells neither another one nor a value. -/
structure FailureTold (error : EvaluationError) (log : List Event) : Prop where
  last : (log.map Event.entry).getLast? =
    some ⟨.debug, "contas_eval", s!"evaluation failed error={error.message}"⟩
  once : log.countP (fun event => event.entry.severity = .debug) = 1
  only : ∀ value, .evaluated value ∉ log

theorem FailureTold.ne_nil {error : EvaluationError} {log : List Event}
    (told : FailureTold error log) : log ≠ [] := by
  rintro rfl
  cases told.last

private theorem Traced.failureTold {σ : Type} {text : List Char} {evaluation : Evaluation σ}
    {error : EvaluationError} (traced : Traced text evaluation)
    (failed : evaluation.result = .error error) : FailureTold error evaluation.log := by
  rw [traced.log, failed]
  refine ⟨?_, (Event.countP_severity text _).2, ?_⟩
  · rw [List.map_append, List.map_singleton, List.getLast?_concat]
    rfl
  · intro value member
    rcases List.mem_append.mp member with early | final
    · cases Event.severity_spelling early
    · cases List.mem_singleton.mp final

variable {σ : Type} [CharStream σ]

private theorem Progress.events {origin scanner : Scanner σ} {draft : Draft}
    (progress : Progress origin draft scanner) (fresh : origin.events = [])
    (begun : origin.position = .start) :
    scanner.events.reverse = Event.spelling draft.text := by
  induction progress with
  | start =>
    rw [fresh]
    rfl
  | @step draft scanner _ _ _ _ progress _ step _ _ ih =>
    have column : scanner.position.column = draft.text.length + 1 := by
      rw [progress.position, begun, progress.reads.position]
    rw [List.reverse_cons, ih, step.text, Event.spelling_concat, column]

/-- An evaluation that begins with a read has consumed a draft, and its log says so. -/
theorem Conclusion.spelled {source : σ} {lookahead : Option Char} {evaluation : Evaluation σ}
    (concluded : Conclusion ⟨source, lookahead, .start, 0, []⟩ evaluation) :
    ∃ draft : Draft, Draft.Reads .blank draft.text draft ∧
      evaluation.log = Event.spelling draft.text ++ [.ofResult evaluation.result] := by
  cases concluded with
  | value complete admitted ended =>
    refine ⟨_, admitted.progress.reads, ?_⟩
    rw [List.reverse_cons, admitted.progress.events rfl rfl]
    rfl
  | @failure error _ failure =>
    cases error with
    | rejected rejection =>
      obtain ⟨draft, progress, _⟩ := failure.due rfl rfl
      refine ⟨draft, progress.reads, ?_⟩
      rw [List.reverse_cons, progress.events rfl rfl]
      rfl
    | unreadable error =>
      cases failure with
      | @unreadable draft before character after _ _ admitted _ step _ _ _ =>
        -- The character behind which the read failed is told already.
        have told : before.position.column = draft.text.length + 1 := by
          rw [admitted.progress.position, admitted.progress.reads.position]
        refine ⟨after, step.text ▸ admitted.progress.reads.concat step, ?_⟩
        rw [List.reverse_cons, List.reverse_cons, admitted.progress.events rfl rfl, told,
          step.text, Event.spelling_concat]
        rfl

/-- Once a source has answered, all is told: no evaluation ends without an entry. -/
theorem evaluate_spelled {source rest : σ} {lookahead : Option Char}
    (read : CharStream.next source = .ok lookahead rest) :
    Traced (evaluate source).consumed (evaluate source) ∧
      ∀ character ∈ (evaluate source).consumed, InAlphabet character := by
  obtain ⟨draft, reads, log⟩ := (evaluate_concludes read).spelled
  have consumed : (evaluate source).consumed = draft.text := by
    rw [Evaluation.consumed, log, List.filterMap_append, Event.filterMap_spelling,
      List.filterMap_cons_none (Event.consumed?_ofResult _), List.filterMap_nil, List.append_nil]
  rw [consumed]
  exact ⟨.ofLog log, reads.inAlphabet⟩

/-- How far a text reaches that was consumed. An accepted one is the whole line, a rejection
stands right behind it, and a read that failed came after all of it. -/
inductive Reaches (text : List Char) : Answer → Except EvaluationError Value → Prop where
  | accepted (ended : lookahead = none ∨ lookahead = some '\n') (oneLine : '\n' ∉ text)
      (same : (evaluateText (.ofList text)).result = .ok value) :
      Reaches text (.ok lookahead) (.ok value)
  | rejected (found : rejection.found = lookahead)
      (behind : rejection.position.column - 1 = text.length) :
      Reaches text (.ok lookahead) (.error (.rejected rejection))
  | unreadable : Reaches text (.error error) (.error (.unreadable error))

private theorem Answer.characters_injective : Function.Injective characters :=
  List.map_injective_iff.mpr fun _ _ same => Option.some.inj (Except.ok.inj same)

private theorem Judged.reaches {consumed : List Char} {last : Answer}
    {result : Except EvaluationError Value} (judged : Judged consumed last result)
    (known : ∀ character ∈ consumed, InAlphabet character) : Reaches consumed last result := by
  cases judged with
  | failed => exact .unreadable
  | @settled lookahead _ settles =>
    have oneLine : '\n' ∉ consumed := fun member => (known _ member).ne_lineFeed rfl
    cases result with
    | ok value =>
      have ended : atEnd lookahead.toList = true := by
        rcases settles.stops with rfl | rfl <;> rfl
      have accepted := settles.text lookahead.toList (by cases lookahead <;> rfl)
      refine .accepted settles.stops oneLine (evaluateText_firstLine ?_ accepted)
      have alone : (String.ofList consumed).toList = consumed ++ [] := by
        rw [String.toList_ofList, List.append_nil]
      rw [firstLine_eq oneLine alone rfl, firstLine_eq oneLine String.toList_ofList ended]
    | error error =>
      cases error with
      | rejected rejection =>
        refine .rejected settles.stops ?_
        rw [settles.position rejection rfl, Nat.add_sub_cancel]
      | unreadable => exact settles.stops.elim

/-- Once the first read is answered, the log of an evaluation spells the characters that were
answered up to the last read, and then has the result; the length of what it spells is told
by the result. -/
theorem evaluate_traced (source rest : σ) (lookahead : Option Char)
    (read : CharStream.next source = .ok lookahead rest) :
    let evaluation := evaluate source
    let recorded := evaluate ({ source } : Recorded σ)
    recorded.result = evaluation.result ∧ recorded.source.source = evaluation.source ∧
      ∃ text last, recorded.source.answers.reverse = Answer.characters text ++ [last] ∧
        Traced text evaluation ∧ Reaches text last evaluation.result := by
  intro evaluation recorded
  obtain ⟨result, log, left⟩ :
      recorded.result = evaluation.result ∧ recorded.log = evaluation.log ∧
        recorded.source.source = evaluation.source :=
    evaluate_alike Recorded.answersAlike rfl
  obtain ⟨last, asked, judged⟩ := evaluate_judged ({ source } : Recorded σ)
  have listed : recorded.source.answers.reverse = Answer.characters recorded.consumed ++ [last] :=
    asked.recorded
  have consumed : recorded.consumed = evaluation.consumed := by
    rw [Evaluation.consumed, Evaluation.consumed, log]
  change Judged recorded.consumed last recorded.result at judged
  rw [consumed, result] at judged
  obtain ⟨traced, known⟩ := evaluate_spelled read
  exact ⟨result, left, evaluation.consumed, last, consumed ▸ listed, traced, judged.reaches known⟩

/-- A read fails inside a group, and the character in front of it is told before the failure. -/
theorem evaluate_traced_brokenGroup :
    let error := ReadError.mk .brokenPipe "broken pipe"
    let supplies := [.failure error, .bytes [0x32, 0x29]]
    let source : Utf8Stream := { bytes := .ofSupplies (.bytes [0x28, 0x31] :: supplies) }
    let evaluation := evaluate source
    CharStream.next source = .ok (some '(') ⟨⟨[0x31], supplies⟩, ['(']⟩ ∧
      evaluation.result = .error (.unreadable error) ∧ Traced ['(', '1'] evaluation ∧
      evaluation.log = [.consumed '(' 1, .consumed '1' 2, .failed (.unreadable error)] := by
  intro error supplies source evaluation
  have read : CharStream.next source = .ok (some '(') ⟨⟨[0x31], supplies⟩, ['(']⟩ := by
    dsimp only [source, supplies]
    cbv
  have answers : (evaluate ({ source } : Recorded Utf8Stream)).source.answers.reverse =
      Answer.characters ['(', '1'] ++ [.error error] := by
    dsimp only [source, supplies, error]
    cbv
  obtain ⟨_, _, text, last, listed, traced, reaches⟩ := evaluate_traced source _ _ read
  obtain ⟨read', failed⟩ := List.append_inj' (answers.symm.trans listed) rfl
  obtain rfl : ['(', '1'] = text := Answer.characters_injective read'
  obtain rfl : .error error = last := List.singleton_inj.mp failed
  have result : evaluation.result = .error (.unreadable error) := by
    change Reaches _ _ evaluation.result at reaches
    generalize evaluation.result = result at reaches
    cases reaches
    rfl
  refine ⟨read, result, traced, ?_⟩
  rw [show evaluation.log = _ from traced.log, result]
  rfl

/-- An evaluation tells how it failed, and that once and last, exactly if its first read was
answered. Where that read fails, the evaluation fails with it and tells nothing. -/
theorem evaluate_failureTold (source : σ) (error : EvaluationError)
    (failed : (evaluate source).result = .error error) :
    (FailureTold error (evaluate source).log ↔
        ∃ lookahead rest, CharStream.next source = .ok lookahead rest) ∧
      ∀ failure rest, CharStream.next source = .error failure rest →
        error = .unreadable failure ∧ (evaluate source).log = [] := by
  cases read : CharStream.next source with
  | ok lookahead rest =>
    have told := (evaluate_spelled read).1.failureTold failed
    refine ⟨iff_of_true told ⟨lookahead, rest, rfl⟩, ?_⟩
    intro failure rest broken
    cases broken
  | error failure rest =>
    have broken : evaluate source = ⟨.error (.unreadable failure), rest, []⟩ := by
      rw [evaluate, Scanner.ofSource, read]
    rw [broken] at failed ⊢
    cases failed
    refine ⟨iff_of_false (fun told => told.ne_nil rfl) ?_, ?_⟩
    · intro answered
      obtain ⟨_, _, answer⟩ := answered
      cases answer
    · intro _ _ same
      cases same
      exact ⟨rfl, rfl⟩

/-- The failure is that of the last read, behind a number. -/
theorem evaluate_failureTold_lastRead :
    let error := ReadError.mk .brokenPipe "broken pipe"
    let source : Utf8Stream := { bytes := .ofSupplies [.bytes [0x31], .failure error] }
    (evaluate source).result = .error (.unreadable error) ∧
      FailureTold (.unreadable error) (evaluate source).log := by
  intro error source
  have failed : (evaluate source).result = .error (.unreadable error) := by
    dsimp only [source, error]
    cbv
  have read : CharStream.next source = .ok (some '1') ⟨⟨[], [.failure error]⟩, ['1']⟩ := by
    dsimp only [source, error]
    cbv
  exact ⟨failed, (evaluate_failureTold source _ failed).1.mpr ⟨_, _, read⟩⟩

/-- Of a reader that fails at once nothing is told. -/
theorem evaluateBytes_failureUntold :
    let error := ReadError.mk .other "boom"
    let evaluation := evaluateBytes (.ofSupplies [.failure error])
    evaluation.result = .error (.unreadable error) ∧
      ¬ FailureTold (.unreadable error) evaluation.log := by
  intro error evaluation
  have untold : evaluation.log = [] := by
    dsimp only [evaluation, error]
    cbv
  exact ⟨by dsimp only [evaluation, error]; cbv, fun told => told.ne_nil untold⟩

end Reckon
