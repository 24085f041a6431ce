import Reckon.Proofs.Channels
import Reckon.Proofs.Line

namespace Reckon

variable {σ : Type}

/-- A source together with the answers to all reads so far, the latest in front. -/
structure Recorded (σ : Type) where
  source : σ
  answers : List (Except ReadError (Option Char)) := []

instance [CharStream σ] : CharStream (Recorded σ) where
  next recorded :=
    match CharStream.next recorded.source with
    | .ok answer source => .ok answer ⟨source, .ok answer :: recorded.answers⟩
    | .error error source => .error error ⟨source, .error error :: recorded.answers⟩
  remaining recorded := CharStream.remaining recorded.source
  remaining_next recorded := by
    have law := CharStream.remaining_next recorded.source
    split at law <;> rename_i read <;> simpa only [read] using law

namespace Recorded

variable [CharStream σ]

theorem answersAlike :
    AnswersAlike fun (recorded : Recorded σ) (source : σ) => recorded.source = source := by
  rintro ⟨source, answers⟩ _ rfl
  simp only [CharStream.next]
  cases CharStream.next source with
  | ok answer rest => exact .ok answer rfl
  | error error rest => exact .error error rfl

theorem next_eq_ok {recorded rest : Recorded σ} {answer : Option Char}
    (read : CharStream.next recorded = .ok answer rest) :
    CharStream.next recorded.source = .ok answer rest.source ∧
      rest.answers = .ok answer :: recorded.answers := by
  simp only [CharStream.next] at read
  split at read <;> rename_i answered <;> cases read
  exact ⟨answered, rfl⟩

end Recorded

def Event.consumed? : Event → Option Char
  | consumed character _ => some character
  | _ => none

/-- The characters that the log tells the consumption of. -/
def Evaluation.consumed (evaluation : Evaluation σ) : List Char :=
  evaluation.log.filterMap Event.consumed?

/-- What a result has to do with the character ahead at the end. -/
def StopsAt : Except EvaluationError Value → (lookahead : Option Char) → Prop
  | .ok _, lookahead => lookahead = none ∨ lookahead = some '\n'
  | .error (.rejected rejection), lookahead => rejection.found = lookahead
  | .error (.unreadable _), _ => False

theorem Scanner.stopsAt_of_isAtEnd {scanner : Scanner σ} (ended : scanner.isAtEnd = true)
    (value : Value) : StopsAt (.ok value) scanner.lookahead := by
  unfold isAtEnd at ended
  cases ahead : scanner.lookahead with
  | none => exact .inl rfl
  | some character =>
    rw [ahead] at ended
    exact .inr (congrArg some (by simpa using ended))

variable [CharStream σ]

namespace Progress

variable {origin scanner : Scanner σ} {draft : Draft}

/-- What every read keeps, of the answers so far and the source, holds at every scanner:
the answers were the characters of the draft and the one ahead. -/
theorem answered (holds : List (Option Char) → σ → Prop)
    (kept : ∀ answers source answer rest, holds answers source →
      CharStream.next source = .ok answer rest → holds (answers ++ [answer]) rest)
    (progress : Progress origin draft scanner) (begun : holds [origin.lookahead] origin.source) :
    holds (draft.text.map some ++ [scanner.lookahead]) scanner.source := by
  induction progress with
  | start => exact begun
  | @step _ _ _ _ lookahead _ _ ahead step read _ ih =>
    have next := kept _ _ lookahead _ ih read
    rwa [ahead, ← List.map_singleton, ← List.map_append, ← step.text] at next

theorem consumed_events (progress : Progress origin draft scanner) (fresh : origin.events = []) :
    scanner.events.filterMap Event.consumed? = draft.text.reverse := by
  induction progress with
  | start =>
    rw [fresh]
    rfl
  | step _ _ step _ _ ih => simp [Event.consumed?, ih, step.text]

end Progress

/-- How an evaluation ends that begins at the scanner `origin`. -/
inductive Conclusion (origin : Scanner σ) : Evaluation σ → Prop where
  | value (complete : draft.tree? = some tree) (admitted : Admitted origin draft scanner)
      (ended : scanner.isAtEnd = true) :
      Conclusion origin
        ⟨.ok tree.value, scanner.source, (.evaluated tree.value :: scanner.events).reverse⟩
  | failure (failure : Failure origin error scanner) :
      Conclusion origin
        ⟨.error error, scanner.source, (.failed error :: scanner.events).reverse⟩

theorem evaluate_concludes {source rest : σ} {lookahead : Option Char}
    (read : CharStream.next source = .ok lookahead rest) :
    Conclusion ⟨rest, lookahead, .start, 0, []⟩ (evaluate source) := by
  have begun : Scanner.ofSource source = .ok ⟨rest, lookahead, .start, 0, []⟩ := by
    rw [Scanner.ofSource, read]
  have met := Grammar.line_reads ⟨rest, lookahead, .start, 0, []⟩ (Nat.zero_le _)
  change Meets _ _ (Grammar.line _).outcome at met
  rw [evaluate, begun]
  dsimp only
  cases outcome : (Grammar.line ⟨rest, lookahead, .start, 0, []⟩).outcome with
  | ok value scanner =>
    rw [outcome] at met
    obtain ⟨draft, tree, complete, rfl, admitted, ended⟩ := met
    exact .value complete admitted ended
  | error error scanner =>
    rw [outcome] at met
    exact .failure met

theorem Progress.consumed_log {origin scanner : Scanner σ} {draft : Draft}
    (progress : Progress origin draft scanner) (fresh : origin.events = []) {last : Event}
    (final : last.consumed? = none) (result : Except EvaluationError Value) :
    (Evaluation.mk result scanner.source (last :: scanner.events).reverse).consumed =
      draft.text := by
  simp [Evaluation.consumed, progress.consumed_events fresh, final]

/-- An evaluation that meets no failing read stops at a scanner, which has consumed what
is logged. -/
theorem evaluate_progress (source : σ)
    (readable : ∀ error, (evaluate source).result ≠ .error (.unreadable error)) :
    ∃ lookahead rest draft scanner, CharStream.next source = .ok lookahead rest ∧
      Progress ⟨rest, lookahead, .start, 0, []⟩ draft scanner ∧
      StopsAt (evaluate source).result scanner.lookahead ∧
      (evaluate source).source = scanner.source ∧ (evaluate source).consumed = draft.text := by
  cases read : CharStream.next source with
  | error error rest =>
    refine absurd ?_ (readable error)
    rw [evaluate, Scanner.ofSource, read]
  | ok lookahead rest =>
    have concluded := evaluate_concludes read
    generalize evaluate source = evaluation at concluded readable ⊢
    cases concluded with
    | value complete admitted ended =>
      exact ⟨_, _, _, _, rfl, admitted.progress, Scanner.stopsAt_of_isAtEnd ended _, rfl,
        admitted.progress.consumed_log rfl rfl _⟩
    | @failure error _ failure =>
      cases error with
      | unreadable error => exact absurd rfl (readable error)
      | rejected rejection =>
        obtain ⟨draft, progress, found, _⟩ := failure.due rfl rfl
        exact ⟨_, _, draft, _, rfl, progress, found, rfl, progress.consumed_log rfl rfl _⟩

theorem evaluateBytes_readable {reader : ByteReader} {bytes : List UInt8}
    (delivers : reader.Delivers bytes) (error : ReadError) :
    (evaluateBytes reader).result ≠ .error (.unreadable error) := by
  rw [evaluateBytes_delivers delivers]
  exact evaluateText_readable _ error

namespace Utf8Stream

/-- From the front of `bytes` the reads of the stream were answered, and no byte was taken
that is not part of an answer. -/
structure Answered (bytes : List UInt8) (answers : List (Option Char)) (stream : Utf8Stream) :
    Prop where
  delivers : stream.bytes.Delivers stream.bytes.unread
  delivered : stream.delivered = answers.reduceOption.reverse
  cut : ∃ taken, taken.map Segment.character = answers.reduceOption ∧
    Utf8.segments bytes = taken ++ Utf8.segments stream.bytes.unread
  ended : none ∈ answers → stream.bytes.unread = []

private theorem Answered.fresh {reader : ByteReader} {bytes : List UInt8}
    (delivers : reader.Delivers bytes) : Answered bytes [] { bytes := reader } where
  delivers := by rwa [delivers.unread]
  delivered := rfl
  cut := ⟨[], rfl, by rw [delivers.unread, List.nil_append]⟩
  ended := nofun

private theorem Answered.next {bytes : List UInt8} {answers : List (Option Char)}
    {answer : Option Char} {stream rest : Utf8Stream} (answered : stream.Answered bytes answers)
    (read : CharStream.next stream = .ok answer rest) :
    rest.Answered bytes (answers ++ [answer]) := by
  obtain ⟨delivers, delivered, ⟨taken, known, cut⟩, ended⟩ := answered
  generalize stream.bytes.unread = unread at delivers cut ended
  cases next_delivers delivers with
  | ended read' left kept =>
    rw [read] at read'
    cases read'
    refine ⟨by rwa [left.unread], ?_, ⟨taken, ?_, ?_⟩, fun _ => left.unread⟩
    · simp [kept, delivered, List.reduceOption_append]
    · simp [known, List.reduceOption_append]
    · rw [cut, left.unread]
  | @decoded segment others _ cut' read' left kept =>
    rw [read] at read'
    cases read'
    have more : (answers ++ [some segment.character]).reduceOption =
        answers.reduceOption ++ [segment.character] := by
      simp [List.reduceOption_append]
    refine ⟨by rwa [left.unread], ?_, ⟨taken ++ [segment], ?_, ?_⟩, ?_⟩
    · simp [kept, delivered, more]
    · simp [known, more]
    · rw [cut, cut', left.unread, List.append_assoc, List.singleton_append]
    · intro absent
      have nothing := ended (by simpa using absent)
      simp only [List.append_eq_nil_iff] at nothing
      rw [left.unread, nothing.2]

theorem Answered.characters {bytes : List UInt8} {answers : List (Option Char)}
    {stream : Utf8Stream} (answered : stream.Answered bytes answers) :
    Utf8.characters bytes = answers.reduceOption ++ Utf8.characters stream.bytes.unread := by
  obtain ⟨taken, known, cut⟩ := answered.cut
  rw [Utf8.characters, cut, List.map_append, known]
  rfl

end Utf8Stream

/-- The reads of the stream were answered from the front of `bytes`, as is recorded. -/
structure Recorded.Answered (bytes : List UInt8) (answers : List (Option Char))
    (recorded : Recorded Utf8Stream) : Prop where
  source : recorded.source.Answered bytes answers
  listed : recorded.answers = (answers.map .ok).reverse

private theorem Recorded.Answered.next {bytes : List UInt8} {answers : List (Option Char)}
    {answer : Option Char} {recorded rest : Recorded Utf8Stream}
    (answered : recorded.Answered bytes answers)
    (read : CharStream.next recorded = .ok answer rest) :
    rest.Answered bytes (answers ++ [answer]) := by
  obtain ⟨read, listed⟩ := next_eq_ok read
  refine ⟨answered.source.next read, ?_⟩
  rw [listed, answered.listed]
  simp

theorem reduceOption_answers (consumed : List Char) (lookahead : Option Char) :
    (consumed.map some ++ [lookahead]).reduceOption = consumed ++ lookahead.toList := by
  rw [List.reduceOption_append, List.reduceOption_singleton]
  simp [List.reduceOption]

/-- An evaluation of a reader asks for the characters that it consumes and the one at which
it stops, and never again. -/
theorem evaluateBytes_answered {reader : ByteReader} {bytes : List UInt8}
    (delivers : reader.Delivers bytes) :
    let evaluation := evaluateBytes reader
    let recorded := evaluate ({ source := { bytes := reader } } : Recorded Utf8Stream)
    ∃ lookahead, StopsAt evaluation.result lookahead ∧
      (∀ character ∈ evaluation.consumed, InAlphabet character) ∧
      evaluation.source.Answered bytes (evaluation.consumed.map some ++ [lookahead]) ∧
      recorded.result = evaluation.result ∧ recorded.source.source = evaluation.source ∧
      recorded.source.answers.reverse =
        (evaluation.consumed.map some ++ [lookahead]).map .ok := by
  intro evaluation recorded
  obtain ⟨result, log, source⟩ :
      recorded.result = evaluation.result ∧ recorded.log = evaluation.log ∧
        recorded.source.source = evaluation.source :=
    evaluate_alike Recorded.answersAlike rfl
  have readable : ∀ error, recorded.result ≠ .error (.unreadable error) := by
    intro error
    rw [result]
    exact evaluateBytes_readable delivers error
  obtain ⟨first, rest, draft, scanner, read, progress, stops, left, consumed⟩ :=
    evaluate_progress _ readable
  have told : evaluation.consumed = draft.text := by
    rw [← consumed, Evaluation.consumed, Evaluation.consumed, log]
  have begun := Recorded.Answered.next ⟨.fresh delivers, rfl⟩ read
  obtain ⟨answered, listed⟩ :=
    progress.answered (Recorded.Answered bytes) (fun _ _ _ _ => .next) begun
  refine ⟨scanner.lookahead, result ▸ stops, ?_, ?_, result, source, ?_⟩
  · rw [told]
    exact progress.reads.inAlphabet
  · rwa [told, ← source, left]
  · rw [told, left, listed, List.reverse_reverse]

/-- The evaluation has taken from `bytes` what it consumed and the character ahead, if there
is one, and left the others unread. -/
structure ReadAhead (bytes : List UInt8) (evaluation : Evaluation Utf8Stream)
    (lookahead : Option Char) : Prop where
  stops : StopsAt evaluation.result lookahead
  known : ∀ character ∈ evaluation.consumed, InAlphabet character
  text : evaluation.source.text = String.ofList (evaluation.consumed ++ lookahead.toList)
  taken : ∃ taken, taken.map Segment.character = evaluation.consumed ++ lookahead.toList ∧
    taken <+: Utf8.segments bytes ∧
    bytes = taken.flatMap Segment.bytes ++ evaluation.source.bytes.unread
  exhausted : lookahead = none → evaluation.source.bytes.unread = []
  line : lookahead = some '\n' →
    bytes = Utf8.encode evaluation.consumed ++ 0x0A :: evaluation.source.bytes.unread

private theorem Utf8.replacement_not_inAlphabet : ¬ InAlphabet replacement := by
  rintro (digit | listed)
  · exact absurd digit (by decide)
  · exact absurd listed (by decide)

theorem ReadAhead.ofAnswered {bytes : List UInt8} {evaluation : Evaluation Utf8Stream}
    {lookahead : Option Char} (stops : StopsAt evaluation.result lookahead)
    (known : ∀ character ∈ evaluation.consumed, InAlphabet character)
    (answered : evaluation.source.Answered bytes (evaluation.consumed.map some ++ [lookahead])) :
    ReadAhead bytes evaluation lookahead := by
  obtain ⟨taken, characters, cut⟩ := answered.cut
  have delivered := answered.delivered
  rw [reduceOption_answers] at characters delivered
  have whole : bytes = taken.flatMap Segment.bytes ++ evaluation.source.bytes.unread := by
    rw [← Utf8.segments_bytes bytes, cut, List.flatMap_append, Utf8.segments_bytes]
  refine ⟨stops, known, ?_, ⟨taken, characters, ⟨_, cut.symm⟩, whole⟩, ?_, ?_⟩
  · rw [Utf8Stream.text, delivered, List.reverse_reverse]
  · rintro rfl
    exact answered.ended (by simp)
  · rintro rfl
    -- Nothing in the line is U+FFFD, so every segment is the encoding of its character.
    have faithful : ∀ segment ∈ taken, segment.Faithful := fun segment member =>
      Utf8.segments_faithful bytes segment (cut ▸ List.mem_append_left _ member)
    have intact : Utf8.replacement ∉ taken.map Segment.character := by
      rw [characters, List.mem_append]
      rintro (consumed | feed)
      · exact Utf8.replacement_not_inAlphabet (known _ consumed)
      · exact absurd feed (by decide)
    have encoded := Utf8.encode_of_faithful faithful intact
    have feed : Utf8.encode ['\n'] = [0x0A] := rfl
    rw [characters, Option.toList_some, Utf8.encode_append, feed] at encoded
    rw [whole, ← encoded, List.append_assoc, List.singleton_append]

/-- An evaluation stops one character behind what it consumed, and never asks for another. -/
theorem evaluateBytes_readAhead (bytes : List UInt8) (reader : ByteReader)
    (delivers : reader.Delivers bytes) :
    let evaluation := evaluateBytes reader
    let recorded := evaluate ({ source := { bytes := reader } } : Recorded Utf8Stream)
    ∃ lookahead, ReadAhead bytes evaluation lookahead ∧
      recorded.result = evaluation.result ∧ recorded.source.source = evaluation.source ∧
      recorded.source.answers.reverse =
        (evaluation.consumed.map some ++ [lookahead]).map .ok := by
  intro evaluation recorded
  obtain ⟨lookahead, stops, known, answered, same⟩ := evaluateBytes_answered delivers
  exact ⟨lookahead, .ofAnswered stops known answered, same⟩

/-- The line feed is taken and the byte behind it is left, though they come in one buffer. -/
theorem evaluateBytes_readAhead_nextLine :
    let bytes := [0x31, 0x2B, 0x32, 0x0A, 0xC3, 0xA9]
    let reader := ByteReader.ofSupplies
      [.bytes [0x31], .failure ⟨.interrupted, "try again"⟩, .bytes [0x2B, 0x32, 0x0A, 0xC3],
        .bytes [0xA9]]
    let evaluation := evaluateBytes reader
    let recorded := evaluate ({ source := { bytes := reader } } : Recorded Utf8Stream)
    reader.Delivers bytes ∧ evaluation.consumed = ['1', '+', '2'] ∧
      evaluation.source.bytes.unread = [0xC3, 0xA9] ∧
      ReadAhead bytes evaluation (some '\n') ∧
      recorded.source.answers.reverse =
        [.ok (some '1'), .ok (some '+'), .ok (some '2'), .ok (some '\n')] := by
  intro bytes reader evaluation recorded
  have delivers : reader.Delivers bytes := ⟨by decide, rfl⟩
  have consumed : evaluation.consumed = ['1', '+', '2'] := by
    dsimp only [evaluation, reader]
    cbv
  have unread : evaluation.source.bytes.unread = [0xC3, 0xA9] := by
    dsimp only [evaluation, reader]
    cbv
  have asked : recorded.source.answers.reverse =
      [.ok (some '1'), .ok (some '+'), .ok (some '2'), .ok (some '\n')] := by
    dsimp only [recorded, reader]
    cbv
  obtain ⟨lookahead, readAhead, _, _, answers⟩ := evaluateBytes_readAhead bytes reader delivers
  have stopped : lookahead = some '\n' := by
    change recorded.source.answers.reverse = (evaluation.consumed.map some ++ [lookahead]).map .ok
      at answers
    rw [asked, consumed] at answers
    simpa using answers.symm
  exact ⟨delivers, consumed, unread, stopped ▸ readAhead, asked⟩

end Reckon
