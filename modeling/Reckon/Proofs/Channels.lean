import Reckon.Proofs.Alike
import Reckon.Proofs.Decoding

namespace Reckon

/-- The stream still has the characters to hand out, and then ends. -/
def Utf8Stream.Spells (characters : List Char) (stream : Utf8Stream) : Prop :=
  ∃ bytes, stream.bytes.Delivers bytes ∧ Utf8.characters bytes = characters

theorem Utf8Stream.spells_answersAlike : AnswersAlike Utf8Stream.Spells := by
  intro characters stream spells
  obtain ⟨bytes, delivers, rfl⟩ := spells
  cases next_delivers delivers with
  | @ended rest read left =>
    rw [read, Utf8.characters_nil]
    have spelled : Spells [] rest := ⟨[], left, Utf8.characters_nil⟩
    exact .ok none spelled
  | @decoded segment others rest cut read left kept =>
    have spelled : Utf8.characters (segment.bytes ++ others) =
        segment.character :: Utf8.characters others := by
      rw [Utf8.characters, cut]
      rfl
    rw [read, spelled]
    exact .ok (some segment.character) ⟨others, left, rfl⟩

/-- Bytes are evaluated as the text that they are decoded to. -/
theorem evaluateBytes_delivers {reader : ByteReader} {bytes : List UInt8}
    (delivers : reader.Delivers bytes) :
    (evaluateBytes reader).result =
      (evaluateText (String.ofList (Utf8.characters bytes))).result := by
  have spells : Utf8Stream.Spells (Utf8.characters bytes) { bytes := reader } :=
    ⟨bytes, delivers, rfl⟩
  rw [evaluateText, String.toList_ofList]
  exact (evaluate_alike Utf8Stream.spells_answersAlike spells).1.symm

theorem evaluateBytes_encode {reader : ByteReader} {text : String}
    (delivers : reader.Delivers (Utf8.encode text.toList)) :
    (evaluateBytes reader).result = (evaluateText text).result := by
  rw [evaluateBytes_delivers delivers, Utf8.characters_encode, String.ofList_toList]

/-- A reader of the text, in buffers of any size, and a file that holds it are evaluated
to what the text is evaluated to. -/
theorem evaluateText_everyChannel (text : String) :
    (∀ reader : ByteReader, reader.Delivers (Utf8.encode text.toList) →
      (evaluateBytes reader).result = (evaluateText text).result) ∧
    (∀ capacity, 0 < capacity →
      (evaluateBytes (.ofBytes (Utf8.encode text.toList) capacity)).result =
        (evaluateText text).result) ∧
    ∀ directory path, Directory.find directory path = .ok (.file (Utf8.encode text.toList)) →
      (evaluateFile directory path).result = (evaluateText text).result := by
  refine ⟨fun reader => evaluateBytes_encode, ?_, ?_⟩
  · intro capacity room
    exact evaluateBytes_encode (ByteReader.ofBytes_delivers room _)
  · intro directory path held
    rw [evaluateFile, Directory.open?, held]
    exact evaluateBytes_encode (ByteReader.ofBytes_delivers (by decide) _)

/-- The character that does not fit is cut in two by a buffer's end and an interruption. -/
theorem evaluateText_everyChannel_interrupted :
    let bytes := [0x31, 0x2B, 0xC3, 0xA9]
    let reader := ByteReader.ofSupplies
      [.bytes [0x31, 0x2B, 0xC3], .failure ⟨.interrupted, "try again"⟩, .bytes [0xA9]]
    let directory := Directory.ofFiles ["home"] [("f", bytes)]
    let result : Except EvaluationError Value :=
      .error (.rejected ⟨.expectedNumber, some 'é', ⟨1, 3, 2⟩⟩)
    reader.Delivers bytes ∧ (evaluateBytes reader).result = result ∧
      (evaluateBytes (.ofBytes bytes 1)).result = result ∧
      directory.find "f" = .ok (.file bytes) ∧
      (evaluateFile directory "f").result = result := by
  intro bytes reader directory result
  have encoded : Utf8.encode "1+é".toList = bytes := by cbv
  have evaluated : (evaluateText "1+é").result = result := by cbv
  obtain ⟨fromReader, fromBuffers, fromFile⟩ := evaluateText_everyChannel "1+é"
  rw [encoded, evaluated] at fromReader fromBuffers fromFile
  have delivers : reader.Delivers bytes := ⟨by decide, rfl⟩
  have held : directory.find "f" = .ok (.file bytes) := by cbv
  exact ⟨delivers, fromReader reader delivers, fromBuffers 1 (by decide), held,
    fromFile directory "f" held⟩

end Reckon
