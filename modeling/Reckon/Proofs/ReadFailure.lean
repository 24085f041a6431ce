import Reckon.Proofs.Answers

namespace Reckon

namespace ByteReader

variable {reader rest : ByteReader} {byte : UInt8} {error : ReadError}

def followedBy (reader : ByteReader) (more : List Supply) : ByteReader :=
  { reader with supplies := reader.supplies ++ more }

/-- What comes behind a byte is not needed to show it. -/
theorem request_followedBy (supplies more : List Supply)
    (shown : request supplies = .ok (some byte) rest) :
    request (supplies ++ more) = .ok (some byte) (rest.followedBy more) := by
  fun_induction request supplies with
  | case1 => cases shown
  | case2 supplies ih => exact ih shown
  | case3 =>
    cases shown
    rfl
  | case4 => cases shown
  | case5 error supplies interrupted ih =>
    rw [List.cons_append, request, if_pos interrupted]
    exact ih shown
  | case6 => cases shown

theorem peek_followedBy (more : List Supply) (shown : reader.peek = .ok (some byte) rest) :
    (reader.followedBy more).peek = .ok (some byte) (rest.followedBy more) := by
  rcases reader with ⟨_ | ⟨first, buffer⟩, supplies⟩
  · exact request_followedBy supplies more shown
  · cases shown
    rfl

theorem skip_followedBy (more : List Supply) (skipped : reader.skip = .ok () rest) :
    (reader.followedBy more).skip = .ok () (rest.followedBy more) := by
  cases skipped
  rfl

private theorem request_failure {supplies : List Supply} (more : List Supply)
    (hard : error.kind ≠ .interrupted) (reliable : ∀ supply ∈ supplies, supply.Reliable)
    (spent : (ofSupplies supplies).unread = []) :
    request (supplies ++ .failure error :: more) = .error error (ofSupplies more) := by
  fun_induction request supplies with
  | case1 => rw [List.nil_append, request, if_neg hard, ofSupplies]
  | case2 supplies ih =>
    refine ih (fun supply member => reliable supply (List.mem_cons_of_mem _ member)) ?_
    simpa [unread, ofSupplies] using spent
  | case3 byte buffer supplies => simp [unread, ofSupplies] at spent
  | case4 => exact (reliable .endOfInput List.mem_cons_self).elim
  | case5 other supplies interrupted ih =>
    rw [List.cons_append, request, if_pos interrupted]
    refine ih (fun supply member => reliable supply (List.mem_cons_of_mem _ member)) ?_
    simpa [unread, ofSupplies] using spent
  | case6 other supplies final => exact absurd (reliable _ List.mem_cons_self) final

private theorem Delivers.peek_failure (more : List Supply) (hard : error.kind ≠ .interrupted)
    (delivers : reader.Delivers []) :
    (reader.followedBy (.failure error :: more)).peek = .error error (ofSupplies more) := by
  obtain ⟨reliable, spent⟩ := delivers
  rcases reader with ⟨_ | ⟨byte, buffer⟩, supplies⟩
  · exact request_failure more hard reliable spent
  · cases spent

end ByteReader

namespace Utf8

private theorem takeContinuations_followedBy {reader : ByteReader}
    {continuations others : List UInt8}
    (more : List Supply) (continues : ∀ byte ∈ continuations, isContinuation byte)
    (delivers : reader.Delivers (continuations ++ others)) :
    ∃ rest : ByteReader, rest.Delivers others ∧
      takeContinuations continuations.length (reader.followedBy more) =
        .ok continuations (rest.followedBy more) := by
  induction continuations generalizing reader with
  | nil => exact ⟨reader, delivers, rfl⟩
  | cons byte continuations ih =>
    obtain ⟨shown, peeked, delivers, front⟩ := delivers.peek
    obtain ⟨after, skipped, delivers⟩ := delivers.skip front
    obtain ⟨rest, left, taken⟩ :=
      ih (fun byte member => continues byte (List.mem_cons_of_mem _ member)) delivers
    refine ⟨rest, left, ?_⟩
    simp [takeContinuations, bind, EStateM.bind, ByteReader.peek_followedBy more peeked,
      continues byte List.mem_cons_self, ByteReader.skip_followedBy more skipped, taken, pure,
      EStateM.pure]

/-- A character that has arrived is read without a look at what comes behind it. -/
theorem next_followedBy {reader : ByteReader} {character : Char} {others : List UInt8}
    (more : List Supply)
    (delivers : reader.Delivers (String.utf8EncodeChar character ++ others)) :
    ∃ rest : ByteReader, rest.Delivers others ∧
      next (reader.followedBy more) = .ok (some character) (rest.followedBy more) := by
  obtain ⟨lead, continuations, spelled, length, continues⟩ := encoded_lead character
  have decoded : scalar? (lead :: continuations) = some character :=
    scalar?_eq_some_iff.mpr spelled.symm
  rw [spelled, List.cons_append] at delivers
  obtain ⟨shown, peeked, delivers, front⟩ := delivers.peek
  obtain ⟨after, skipped, delivers⟩ := delivers.skip front
  obtain ⟨rest, left, taken⟩ := takeContinuations_followedBy more continues delivers
  refine ⟨rest, left, ?_⟩
  simp [next, bind, EStateM.bind, ByteReader.peek_followedBy more peeked,
    ByteReader.skip_followedBy more skipped, length, taken, decoded, pure, EStateM.pure]

end Utf8

namespace Utf8Stream

/-- The stream still has the characters to hand out, and then meets `more`. -/
def Faces (stream : Utf8Stream) (characters : List Char) (more : List Supply) : Prop :=
  ∃ reader : ByteReader,
    reader.Delivers (Utf8.encode characters) ∧ stream.bytes = reader.followedBy more

variable {stream : Utf8Stream} {more : List Supply} {error : ReadError}

theorem Faces.next {character : Char} {others : List Char}
    (faces : stream.Faces (character :: others) more) :
    ∃ rest : Utf8Stream, CharStream.next stream = .ok (some character) rest ∧
      rest.Faces others more ∧ rest.delivered = character :: stream.delivered := by
  obtain ⟨reader, delivers, same⟩ := faces
  rw [Utf8.encode, List.flatMap_cons] at delivers
  obtain ⟨rest, left, read⟩ := Utf8.next_followedBy more delivers
  refine ⟨⟨rest.followedBy more, character :: stream.delivered⟩, ?_, ⟨rest, left, rfl⟩, rfl⟩
  simp [CharStream.next, Utf8Stream.next, same, read]

theorem Faces.failure (hard : error.kind ≠ .interrupted)
    (faces : stream.Faces [] (.failure error :: more)) :
    CharStream.next stream = .error error ⟨.ofSupplies more, stream.delivered⟩ := by
  obtain ⟨reader, delivers, same⟩ := faces
  simp [CharStream.next, Utf8Stream.next, Utf8.next, bind, EStateM.bind, same,
    delivers.peek_failure more hard]

end Utf8Stream

private theorem Recorded.next_eq_error {σ : Type} [CharStream σ] {recorded rest : Recorded σ}
    {error : ReadError} (failed : CharStream.next recorded = .error error rest) :
    CharStream.next recorded.source = .error error rest.source ∧
      rest.answers = .error error :: recorded.answers := by
  simp only [CharStream.next] at failed
  split at failed <;> rename_i answered <;> cases failed
  exact ⟨answered, rfl⟩

namespace Asked

variable {σ : Type} [CharStream σ] {answers : List Answer}

theorem last {source rest : σ} {answer : Answer} (asked : Asked source (answers ++ [answer]) rest) :
    ∃ middle, Asked source answers middle ∧
      ((∃ lookahead, answer = .ok lookahead ∧ CharStream.next middle = .ok lookahead rest) ∨
        ∃ error, answer = .error error ∧ CharStream.next middle = .error error rest) := by
  generalize given : answers ++ [answer] = all at asked
  cases asked with
  | nothing => simp at given
  | answer earlier read =>
    obtain ⟨rfl, same⟩ := List.append_inj' given rfl
    cases same
    exact ⟨_, earlier, .inl ⟨_, rfl, read⟩⟩
  | failure earlier failed =>
    obtain ⟨rfl, same⟩ := List.append_inj' given rfl
    cases same
    exact ⟨_, earlier, .inr ⟨_, rfl, failed⟩⟩

theorem recorded {source rest : Recorded σ} (asked : Asked source answers rest) :
    rest.answers.reverse = source.answers.reverse ++ answers := by
  induction asked with
  | nothing => rw [List.append_nil]
  | answer _ read ih =>
    obtain ⟨_, listed⟩ := Recorded.next_eq_ok read
    rw [listed, List.reverse_cons, ih, List.append_assoc]
  | failure _ failed ih =>
    obtain ⟨_, listed⟩ := Recorded.next_eq_error failed
    rw [listed, List.reverse_cons, ih, List.append_assoc]

theorem faces {stream rest : Utf8Stream} {text read : List Char} {error : ReadError}
    {more : List Supply} (hard : error.kind ≠ .interrupted)
    (start : stream.Faces text (.failure error :: more))
    (asked : Asked stream (Answer.characters read) rest) :
    ∃ others, text = read ++ others ∧ rest.Faces others (.failure error :: more) ∧
      rest.delivered = read.reverse ++ stream.delivered := by
  induction read using List.reverseRecOn generalizing rest with
  | nil =>
    generalize given : Answer.characters [] = none at asked
    cases asked with
    | nothing => exact ⟨text, rfl, start, rfl⟩
    | answer => simp [Answer.characters] at given
    | failure => simp [Answer.characters] at given
  | append_singleton read character ih =>
    rw [Answer.characters_concat] at asked
    obtain ⟨middle, earlier, answered⟩ := asked.last
    obtain ⟨others, spelled, faces, kept⟩ := ih earlier
    rcases answered with ⟨lookahead, same, answer⟩ | ⟨_, same, _⟩
    · cases same
      cases others with
      | nil =>
        rw [faces.failure hard] at answer
        cases answer
      | cons next others =>
        obtain ⟨after, read', faces', kept'⟩ := faces.next
        rw [answer] at read'
        cases read'
        exact ⟨others, by simp [spelled], faces', by simp [kept', kept]⟩
    · cases same

end Asked

/-- A read that failed is what an evaluation ends with, whatever the source, and it ends with
none that did not fail. -/
theorem evaluate_failedRead {σ : Type} [CharStream σ] (source : σ) (failure : ReadError) :
    let recorded := evaluate ({ source } : Recorded σ)
    .error failure ∈ recorded.source.answers ↔
      recorded.result = .error (.unreadable failure) := by
  intro recorded
  obtain ⟨last, asked, judged⟩ := evaluate_judged ({ source } : Recorded σ)
  have listed : recorded.source.answers.reverse =
      Answer.characters recorded.consumed ++ [last] := asked.recorded
  have met : .error failure ∈ recorded.source.answers ↔ last = .error failure := by
    rw [← List.mem_reverse, listed]
    simp [Answer.characters, eq_comm]
  rw [met]
  change Judged recorded.consumed last recorded.result at judged
  generalize recorded.result = result at judged
  cases judged with
  | settled settles =>
    constructor
    · intro failed
      cases failed
    · rintro rfl
      exact settles.stops.elim
  | failed => simp

private theorem Settles.not_needsMore {consumed others : List Char} {character : Char}
    {result : Except EvaluationError Value} (settles : Settles consumed (some character) result) :
    ¬ NeedsMore (.ofList (consumed ++ character :: others)) := by
  have stops := settles.stops
  rw [NeedsMore, settles.text (character :: others) rfl, String.toList_ofList]
  cases result with
  | ok value =>
    have feed : character = '\n' := by simpa [StopsAt] using stops
    simp [feed]
  | error error =>
    cases error with
    | rejected rejection => simp [show rejection.found = some character from stops]
    | unreadable => exact id

theorem evaluateBytes_faces {reader : ByteReader} {text : String} {error : ReadError}
    {more : List Supply} (hard : error.kind ≠ .interrupted)
    (faces : Utf8Stream.Faces { bytes := reader } text.toList (.failure error :: more)) :
    let evaluation := evaluateBytes reader
    (NeedsMore text ∧ evaluation.result = .error (.unreadable error) ∧
        evaluation.source = ⟨.ofSupplies more, text.toList.reverse⟩) ∨
      (¬ NeedsMore text ∧ evaluation.result = (evaluateText text).result ∧
        ∃ others, others <:+ text.toList ∧
          evaluation.source.Faces others (.failure error :: more)) := by
  intro evaluation
  obtain ⟨last, asked, judged⟩ := evaluate_judged ({ bytes := reader } : Utf8Stream)
  change Asked _ (Answer.characters evaluation.consumed ++ [last]) evaluation.source at asked
  change Judged evaluation.consumed last evaluation.result at judged
  generalize evaluation.consumed = consumed, evaluation.result = result,
    evaluation.source = source at asked judged ⊢
  obtain ⟨middle, earlier, answered⟩ := asked.last
  obtain ⟨others, spelled, faces, kept⟩ := earlier.faces hard faces
  have whole : String.ofList (consumed ++ others) = text := by
    rw [← spelled, String.ofList_toList]
  cases others with
  | nil =>
    rw [List.append_nil] at whole spelled kept
    rw [faces.failure hard] at answered
    rcases answered with ⟨_, _, answer⟩ | ⟨_, rfl, failed⟩
    · cases answer
    · cases failed
      cases judged with
      | failed needed => exact .inl ⟨whole ▸ needed, rfl, by rw [kept, spelled]⟩
  | cons character others =>
    obtain ⟨rest, read, faces', _⟩ := faces.next
    rw [read] at answered
    rcases answered with ⟨_, rfl, answer⟩ | ⟨_, _, failed⟩
    · cases answer
      cases judged with
      | settled settles =>
        refine .inr ⟨whole ▸ settles.not_needsMore, ?_, others, ?_, faces'⟩
        · rw [← whole, settles.text _ rfl]
        · exact ⟨consumed ++ [character], by simp [spelled]⟩
    · cases failed

/-- A reader delivers a text and then fails. The failure comes to light exactly where the
evaluation of the text looks for a character behind its last one, and is not met by any
other. -/
theorem evaluateBytes_hardFailure (text : String) (reader : ByteReader) (error : ReadError)
    (more : List Supply) (delivers : reader.Delivers (Utf8.encode text.toList))
    (hard : error.kind ≠ .interrupted) :
    let failing := reader.followedBy (.failure error :: more)
    let evaluation := evaluateBytes failing
    let recorded := evaluate ({ source := { bytes := failing } } : Recorded Utf8Stream)
    (evaluation.result = .error (.unreadable error) ↔ NeedsMore text) ∧
      (NeedsMore text →
        evaluation.source.text = text ∧ evaluation.source.bytes = .ofSupplies more) ∧
      (¬ NeedsMore text → evaluation.result = (evaluateText text).result ∧
        (∀ failure, .error failure ∉ recorded.source.answers) ∧
        ∃ others, others <:+ text.toList ∧
          evaluation.source.Faces others (.failure error :: more)) ∧
      ∀ failure, .error failure ∈ recorded.source.answers →
        evaluation.result = .error (.unreadable failure) := by
  intro failing evaluation recorded
  have met (failure : ReadError) : .error failure ∈ recorded.source.answers ↔
      evaluation.result = .error (.unreadable failure) := by
    have same : recorded.result = evaluation.result :=
      (evaluate_alike Recorded.answersAlike rfl).1
    rw [← same]
    exact evaluate_failedRead _ failure
  have faces : Utf8Stream.Faces { bytes := failing } text.toList (.failure error :: more) :=
    ⟨reader, delivers, rfl⟩
  obtain ⟨needed, result, source⟩ | ⟨enough, result, ahead⟩ := evaluateBytes_faces hard faces
  · refine ⟨iff_of_true result needed, fun _ => ?_, absurd needed, fun failure => (met failure).mp⟩
    rw [show evaluation.source = _ from source]
    exact ⟨by simp [Utf8Stream.text], rfl⟩
  · have unmet (failure : ReadError) : evaluation.result ≠ .error (.unreadable failure) := by
      rw [show evaluation.result = _ from result]
      exact evaluateText_readable text failure
    refine ⟨iff_of_false (unmet error) enough, fun needed => absurd needed enough, fun _ => ?_,
      fun failure => (met failure).mp⟩
    exact ⟨result, fun failure listed => unmet failure ((met failure).mp listed), ahead⟩

/-- A pipe breaks behind the second star, before the exponent that would follow has come. -/
theorem evaluateBytes_hardFailure_brokenPipe :
    let reader := ByteReader.ofSupplies
      [.bytes [0x32], .failure ⟨.interrupted, "try again"⟩, .bytes [0x2A, 0x2A]]
    let error := ReadError.mk .brokenPipe "broken pipe"
    let evaluation := evaluateBytes (reader.followedBy [.failure error, .bytes [0x33]])
    reader.Delivers (Utf8.encode "2**".toList) ∧ error.kind ≠ .interrupted ∧ NeedsMore "2**" ∧
      evaluation.result = .error (.unreadable error) ∧ evaluation.source.text = "2**" ∧
      evaluation.source.bytes = .ofSupplies [.bytes [0x33]] := by
  intro reader error evaluation
  have delivers : reader.Delivers (Utf8.encode "2**".toList) := ⟨by decide, by cbv⟩
  have hard : error.kind ≠ .interrupted := by decide
  have needed : NeedsMore "2**" := by
    have rejected : (evaluateText "2**").result =
        .error (.rejected ⟨.expectedNumber, none, ⟨1, 4, 3⟩⟩) := by cbv
    rw [NeedsMore, rejected]
  obtain ⟨surfaces, left, _⟩ :=
    evaluateBytes_hardFailure "2**" reader error [.bytes [0x33]] delivers hard
  exact ⟨delivers, hard, needed, surfaces.mpr needed, left needed⟩

end Reckon
