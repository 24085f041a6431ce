import Reckon.Proofs.ReadAhead

namespace Reckon

/-- Evaluates `count` lines, each where the one before has left the reader. -/
def evaluateLines : (count : Nat) → ByteReader → List (Except EvaluationError Value) × ByteReader
  | 0, reader => ([], reader)
  | count + 1, reader =>
    let evaluation := evaluateBytes reader
    let others := evaluateLines count evaluation.source.bytes
    (evaluation.result :: others.1, others.2)

def encodeLines (lines : List String) : List UInt8 :=
  lines.flatMap fun line => Utf8.encode line.toList ++ [0x0A]

theorem firstLine_characters {line : List Char} (oneLine : '\n' ∉ line) (others : List UInt8) :
    firstLine (.ofList (Utf8.characters (Utf8.encode line ++ 0x0A :: others))) = line :=
  firstLine_eq oneLine (by rw [String.toList_ofList, Utf8.characters_line]) rfl

/-- A line in front of others is evaluated as it is alone. -/
theorem evaluateBytes_line {line : String} {value : Value} {others : List UInt8}
    {reader : ByteReader} (oneLine : '\n' ∉ line.toList)
    (accepted : (evaluateText line).result = .ok value)
    (delivers : reader.Delivers (Utf8.encode line.toList ++ 0x0A :: others)) :
    (evaluateBytes reader).result = .ok value := by
  have alone : firstLine line = line.toList := firstLine_eq oneLine (List.append_nil _).symm rfl
  rw [evaluateBytes_delivers delivers]
  exact evaluateText_firstLine ((firstLine_characters oneLine others).trans alone.symm) accepted

private theorem evaluateBytes_leaves {line : List Char} {value : Value} {others : List UInt8}
    {reader : ByteReader} (oneLine : '\n' ∉ line)
    (result : (evaluateBytes reader).result = .ok value)
    (delivers : reader.Delivers (Utf8.encode line ++ 0x0A :: others)) :
    (evaluateBytes reader).source.bytes.Delivers others := by
  obtain ⟨lookahead, stops, known, answered, _⟩ := evaluateBytes_answered delivers
  have answers := answered.characters
  rw [reduceOption_answers, List.append_assoc] at answers
  have inLine : '\n' ∉ (evaluateBytes reader).consumed :=
    fun feed => (known _ feed).ne_lineFeed rfl
  have stopped : lookahead = none ∨ lookahead = some '\n' := by
    rw [result] at stops
    exact stops
  rcases stopped with rfl | rfl
  · -- The input cannot have ended: there is a line feed that was not consumed.
    rw [Utf8.characters_line, answered.ended (by simp)] at answers
    have feed : '\n' ∈ line ++ '\n' :: Utf8.characters others := by simp
    rw [answers] at feed
    simp [inLine] at feed
  · have consumed : (evaluateBytes reader).consumed = line := by
      rw [← firstLine_characters oneLine others, answers]
      exact (firstLine_eq inLine String.toList_ofList rfl).symm
    have whole := (ReadAhead.ofAnswered stops known answered).line rfl
    rw [consumed] at whole
    have left := (List.cons.inj (List.append_cancel_left whole)).2
    rw [left]
    exact answered.delivers

theorem evaluateLines_delivers {lines : List (String × Value)} {tail : List UInt8}
    {reader : ByteReader} (oneLine : ∀ line ∈ lines, '\n' ∉ line.1.toList)
    (accepted : ∀ line ∈ lines, (evaluateText line.1).result = .ok line.2)
    (delivers : reader.Delivers (encodeLines (lines.map Prod.fst) ++ tail)) :
    (evaluateLines lines.length reader).1 = lines.map (.ok ·.2) ∧
      (evaluateLines lines.length reader).2.Delivers tail := by
  induction lines generalizing reader with
  | nil => exact ⟨rfl, delivers⟩
  | cons line lines ih =>
    have spelled : encodeLines ((line :: lines).map Prod.fst) ++ tail =
        Utf8.encode line.1.toList ++ 0x0A :: (encodeLines (lines.map Prod.fst) ++ tail) := by
      simp [encodeLines]
    rw [spelled] at delivers
    rw [List.forall_mem_cons] at oneLine accepted
    have result := evaluateBytes_line oneLine.1 accepted.1 delivers
    have left := evaluateBytes_leaves oneLine.1 result delivers
    obtain ⟨results, rest⟩ := ih oneLine.2 accepted.2 left
    exact ⟨congrArg₂ List.cons result results, rest⟩

/-- Lines that have values alone have them one after the other, from any reader of them, and
what stands behind the last of them is left. -/
theorem evaluateLines_framed (lines : List (String × Value)) (tail : List UInt8)
    (oneLine : ∀ line ∈ lines, '\n' ∉ line.1.toList)
    (accepted : ∀ line ∈ lines, (evaluateText line.1).result = .ok line.2) :
    let bytes := encodeLines (lines.map Prod.fst) ++ tail
    let framed (reader : ByteReader) : Prop :=
      (evaluateLines lines.length reader).1 = lines.map (.ok ·.2) ∧
        (evaluateLines lines.length reader).2.unread = tail
    (∀ reader : ByteReader, reader.Delivers bytes → framed reader) ∧
      ∀ capacity, 0 < capacity → framed (.ofBytes bytes capacity) := by
  intro bytes framed
  have whole : ∀ reader : ByteReader, reader.Delivers bytes → framed reader := by
    intro reader delivers
    obtain ⟨results, rest⟩ := evaluateLines_delivers oneLine accepted delivers
    exact ⟨results, rest.unread⟩
  refine ⟨whole, ?_⟩
  intro capacity room
  exact whole _ (ByteReader.ofBytes_delivers room bytes)

/-- Two lines come in buffers that end elsewhere, with bytes of no character behind them. -/
theorem evaluateLines_framed_interrupted :
    let bytes := [0x31, 0x2B, 0x32, 0x0A, 0x32, 0x2A, 0x2A, 0x33, 0x0A, 0xFF, 0x0A]
    let reader := ByteReader.ofSupplies
      [.bytes [0x31, 0x2B], .bytes [0x32, 0x0A, 0x32, 0x2A], .failure ⟨.interrupted, "try again"⟩,
        .bytes [0x2A, 0x33, 0x0A, 0xFF, 0x0A]]
    reader.Delivers bytes ∧
      (evaluateLines 2 reader).1 = [.ok 3, .ok 8] ∧
      (evaluateLines 2 reader).2.unread = [0xFF, 0x0A] ∧
      (evaluateLines 2 (.ofBytes bytes 1)).1 = [.ok 3, .ok 8] ∧
      (evaluateLines 2 (.ofBytes bytes 1)).2.unread = [0xFF, 0x0A] := by
  intro bytes reader
  have delivers : reader.Delivers bytes := ⟨by decide, rfl⟩
  have encoded : encodeLines ["1+2", "2**3"] ++ [0xFF, 0x0A] = bytes := by cbv
  have accepted : ∀ line ∈ [("1+2", (3 : Value)), ("2**3", 8)],
      (evaluateText line.1).result = .ok line.2 := by
    simp only [List.forall_mem_cons]
    exact ⟨by cbv, by cbv, List.forall_mem_nil _⟩
  have framed := evaluateLines_framed [("1+2", 3), ("2**3", 8)] [0xFF, 0x0A] (by decide) accepted
  simp only [List.map_cons, List.map_nil, encoded] at framed
  obtain ⟨fromReader, fromBuffers⟩ := framed
  obtain ⟨results, rest⟩ := fromReader reader delivers
  obtain ⟨results', rest'⟩ := fromBuffers 1 (by decide)
  exact ⟨delivers, results, rest, results', rest'⟩

end Reckon
