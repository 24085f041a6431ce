import Mathlib
import Reckon.Proofs.Segments

namespace Reckon

/-- Reads until the input ends or a read fails. -/
def CharStream.drain {σ : Type} [CharStream σ] (source : σ) :
    EStateM.Result ReadError σ (List Char) :=
  match _ : CharStream.next source with
  | .ok none rest => .ok [] rest
  | .ok (some character) rest =>
    match drain rest with
    | .ok others last => .ok (character :: others) last
    | .error error last => .error error last
  | .error error rest => .error error rest
termination_by CharStream.remaining source
decreasing_by
  rename_i answer
  have law := CharStream.remaining_next source
  rw [answer] at law
  exact law

namespace CharStream

variable {σ : Type} [CharStream σ] {source rest last : σ}

private theorem drain_of_ended (ended : next source = .ok none rest) :
    drain source = .ok [] rest := by
  rw [drain]
  split <;> rename_i answer <;> rw [ended] at answer <;> cases answer
  rfl

private theorem drain_of_read {character : Char} {others : List Char}
    (read : next source = .ok (some character) rest) (drained : drain rest = .ok others last) :
    drain source = .ok (character :: others) last := by
  rw [drain]
  split <;> rename_i answer <;> rw [read] at answer <;> cases answer
  rw [drained]

end CharStream

namespace Utf8Stream

/-- What a read does to a stream whose reader still delivers the bytes. -/
inductive Next (stream : Utf8Stream) : List UInt8 → Prop where
  | ended (read : CharStream.next stream = .ok none rest) (left : rest.bytes.Delivers [])
      (kept : rest.delivered = stream.delivered) : Next stream []
  | decoded {segment : Segment} {others : List UInt8} {rest : Utf8Stream}
      (cut : Utf8.segments (segment.bytes ++ others) = segment :: Utf8.segments others)
      (read : CharStream.next stream = .ok (some segment.character) rest)
      (left : rest.bytes.Delivers others)
      (kept : rest.delivered = segment.character :: stream.delivered) :
      Next stream (segment.bytes ++ others)

theorem next_delivers {stream : Utf8Stream} {bytes : List UInt8}
    (delivers : stream.bytes.Delivers bytes) : stream.Next bytes := by
  obtain ⟨shown, peeked, delivers, front⟩ := delivers.peek
  cases bytes with
  | nil =>
    have read : CharStream.next stream = .ok none ⟨shown, stream.delivered⟩ := by
      simp [CharStream.next, next, Utf8.next, bind, EStateM.bind, peeked, pure, EStateM.pure]
    exact .ended read delivers rfl
  | cons lead bytes =>
    obtain ⟨after, skipped, delivers⟩ := delivers.skip front
    obtain ⟨taken, others, rest, same, split, outcome, left⟩ :=
      Utf8.takeContinuations_delivers (Utf8.sequenceLength lead - 1) delivers
    have cut : Utf8.segments (lead :: bytes) = Utf8.segment lead taken :: Utf8.segments others := by
      rw [Utf8.segments, Utf8.continuations, ← same, split, List.drop_left' rfl]
    have whole : lead :: bytes = (Utf8.segment lead taken).bytes ++ others := by
      rw [split]
      rfl
    rw [whole] at cut ⊢
    have read : CharStream.next stream = .ok (some (Utf8.segment lead taken).character)
        ⟨rest, (Utf8.segment lead taken).character :: stream.delivered⟩ := by
      simp [CharStream.next, next, Utf8.next, bind, EStateM.bind, peeked, skipped, outcome, pure,
        EStateM.pure, Utf8.segment]
    exact .decoded cut read left rfl

theorem drain_delivers {stream : Utf8Stream} {bytes : List UInt8}
    (delivers : stream.bytes.Delivers bytes) :
    ∃ last, CharStream.drain stream = .ok (Utf8.characters bytes) last ∧
      last.delivered = (Utf8.characters bytes).reverse ++ stream.delivered ∧
      last.bytes.Delivers [] := by
  rw [Utf8.characters]
  generalize segmented : Utf8.segments bytes = segments
  induction segments generalizing stream bytes with
  | nil =>
    cases next_delivers delivers with
    | @ended rest read left kept => exact ⟨rest, CharStream.drain_of_ended read, kept, left⟩
    | decoded cut =>
      rw [cut] at segmented
      cases segmented
  | cons segment segments ih =>
    cases next_delivers delivers with
    | ended =>
      rw [Utf8.segments] at segmented
      cases segmented
    | @decoded _ others rest cut read left kept =>
      rw [cut] at segmented
      cases segmented
      obtain ⟨last, drained, kept', ended⟩ := ih left rfl
      refine ⟨last, CharStream.drain_of_read read drained, ?_, ended⟩
      simp [kept', kept]

end Utf8Stream

/-- What bytes are decoded to: the text that they encode if they encode one, and else
with U+FFFD for every segment that is not the encoding of a character. -/
structure Decodes (bytes : List UInt8) (characters : List Char) : Prop where
  ofEncoding : ∀ text, bytes = Utf8.encode text → characters = text
  toEncoding : Utf8.replacement ∉ characters → bytes = Utf8.encode characters
  segmented : ∃ segments : List Segment, segments.flatMap Segment.bytes = bytes ∧
    segments.map Segment.character = characters ∧ ∀ segment ∈ segments, segment.Faithful

theorem Utf8.encode_of_faithful {segments : List Segment}
    (faithful : ∀ segment ∈ segments, segment.Faithful)
    (known : replacement ∉ segments.map Segment.character) :
    encode (segments.map Segment.character) = segments.flatMap Segment.bytes := by
  rw [encode, List.flatMap_map, List.flatMap_def, List.flatMap_def]
  refine congrArg List.flatten (List.map_congr_left fun segment member => ?_)
  rcases (faithful segment member).decoded with encoded | ⟨_, replaced⟩
  · exact encoded.symm
  · exact absurd (List.mem_map.mpr ⟨segment, member, replaced⟩) known

private theorem Utf8.characters_decodes (bytes : List UInt8) :
    Decodes bytes (characters bytes) where
  ofEncoding := by
    rintro text rfl
    exact characters_encode text
  toEncoding := by
    intro known
    rw [characters, encode_of_faithful (segments_faithful bytes) known, segments_bytes]
  segmented := ⟨segments bytes, segments_bytes bytes, rfl, segments_faithful bytes⟩

/-- However the bytes arrive, reading to the end hands out what they are decoded to and
leaves none of them. -/
theorem drain_decodes (bytes : List UInt8) (reader : ByteReader)
    (delivers : reader.Delivers bytes) :
    Decodes bytes (Utf8.characters bytes) ∧
      ∃ last, CharStream.drain ({ bytes := reader } : Utf8Stream) =
          .ok (Utf8.characters bytes) last ∧
        last.text = String.ofList (Utf8.characters bytes) ∧ last.bytes.unread = [] := by
  refine ⟨Utf8.characters_decodes bytes, ?_⟩
  obtain ⟨last, drained, kept, ended⟩ :
      ∃ last, CharStream.drain ({ bytes := reader } : Utf8Stream) =
          .ok (Utf8.characters bytes) last ∧
        last.delivered = (Utf8.characters bytes).reverse ++ [] ∧ last.bytes.Delivers [] :=
    Utf8Stream.drain_delivers delivers
  refine ⟨last, drained, ?_, ended.unread⟩
  simp [Utf8Stream.text, kept]

/-- A sequence is cut short, and an `é` comes in two buffers with an interruption between. -/
theorem drain_decodes_interrupted :
    let bytes := [0xE2, 0x82, 0x2B, 0xC3, 0xA9]
    let reader := ByteReader.ofSupplies
      [.bytes [0xE2, 0x82, 0x2B, 0xC3], .failure ⟨.interrupted, "try again"⟩, .bytes [0xA9]]
    reader.Delivers bytes ∧ Decodes bytes ['\ufffd', '+', 'é'] ∧
      ∃ last, CharStream.drain ({ bytes := reader } : Utf8Stream) = .ok ['\ufffd', '+', 'é'] last ∧
        last.text = "\ufffd+é" ∧ last.bytes.unread = [] := by
  intro bytes reader
  have delivers : reader.Delivers bytes := ⟨by decide, rfl⟩
  have decoded : Utf8.characters bytes = ['\ufffd', '+', 'é'] := by cbv
  have drained := drain_decodes bytes reader delivers
  rw [decoded] at drained
  exact ⟨delivers, drained⟩

end Reckon
