import Reckon.Proofs.Decoding

/-! Where the bytes of one text end and those of the next begin. Whatever stands in front of
a byte that continues no character, be it cut short or no encoding at all, has no effect on
what is decoded from there on. -/

namespace Reckon

/-- No character goes on across the front of `bytes`. -/
def Utf8.AtBoundary (bytes : List UInt8) : Prop :=
  ∀ byte, bytes.head? = some byte → isContinuation byte = false

namespace Utf8

variable {back : List UInt8}

private theorem takeWhile_take_append (boundary : AtBoundary back) (front : List UInt8)
    (missing : Nat) : ((front ++ back).take missing).takeWhile isContinuation =
      (front.take missing).takeWhile isContinuation := by
  induction front generalizing missing with
  | nil =>
    cases back with
    | nil => rfl
    | cons byte back =>
      have ends := boundary byte rfl
      cases missing with
      | zero => rfl
      | succ missing => simp [ends]
  | cons byte front ih =>
    cases missing with
    | zero => rfl
    | succ missing =>
      rw [List.cons_append, List.take_succ_cons, List.take_succ_cons, List.takeWhile_cons,
        List.takeWhile_cons, ih]

/-- A sequence ends where nothing continues it, so the bytes behind it are cut as if they
stood alone. -/
theorem segments_append (front : List UInt8) (boundary : AtBoundary back) :
    segments (front ++ back) = segments front ++ segments back := by
  fun_induction segments front with
  | case1 => rfl
  | case2 lead rest taken ih =>
    have same : continuations lead (rest ++ back) = taken := takeWhile_take_append boundary rest _
    have within : taken.length ≤ rest.length :=
      ((List.takeWhile_prefix _).trans (List.take_prefix ..)).length_le
    rw [List.cons_append, segments, same, List.drop_append_of_le_length within, ih]
    rfl

theorem characters_append (front : List UInt8) (boundary : AtBoundary back) :
    characters (front ++ back) = characters front ++ characters back := by
  rw [characters, segments_append front boundary, List.map_append]
  rfl

private theorem encoded_atBoundary (character : Char) :
    AtBoundary (String.utf8EncodeChar character) := by
  unfold AtBoundary
  fun_cases String.utf8EncodeChar character with
  | case1 | case2 | case3 | case4 =>
    rintro _ ⟨⟩
    rw [Bool.eq_false_iff, ne_eq, isContinuation_iff, UInt8.toNat_ofNat']
    omega

private theorem encode_atBoundary (text : List Char) : AtBoundary (encode text) := by
  intro byte first
  cases text with
  | nil => cases first
  | cons character text =>
    refine encoded_atBoundary character byte ?_
    rwa [encode, List.flatMap_cons, List.head?_append_of_ne_nil] at first
    exact String.utf8EncodeChar_ne_nil

end Utf8

/-- Bytes give the same characters behind others as they give alone, if the first of them
continues no character. So a text is read as it is behind whatever is none. -/
theorem drain_atBoundary (front back : List UInt8) (boundary : Utf8.AtBoundary back)
    (former latter whole : ByteReader) (ahead : former.Delivers front)
    (behind : latter.Delivers back) (joined : whole.Delivers (front ++ back)) :
    (∃ last, CharStream.drain ({ bytes := former } : Utf8Stream) =
      .ok (Utf8.characters front) last) ∧
    (∃ last, CharStream.drain ({ bytes := latter } : Utf8Stream) =
      .ok (Utf8.characters back) last) ∧
    (∃ last, CharStream.drain ({ bytes := whole } : Utf8Stream) =
      .ok (Utf8.characters front ++ Utf8.characters back) last) ∧
    ∀ text reader, reader.Delivers (front ++ Utf8.encode text) →
      ∃ last, CharStream.drain ({ bytes := reader } : Utf8Stream) =
        .ok (Utf8.characters front ++ text) last := by
  have decoded {bytes : List UInt8} {reader : ByteReader} (delivers : reader.Delivers bytes) :
      ∃ last, CharStream.drain ({ bytes := reader } : Utf8Stream) =
        .ok (Utf8.characters bytes) last := by
    have starts : ({ bytes := reader } : Utf8Stream).bytes.Delivers bytes := delivers
    obtain ⟨last, drained, _⟩ := Utf8Stream.drain_delivers starts
    exact ⟨last, drained⟩
  refine ⟨decoded ahead, decoded behind, ?_, ?_⟩
  · rw [← Utf8.characters_append front boundary]
    exact decoded joined
  · intro text reader delivers
    have read := decoded delivers
    rwa [Utf8.characters_append front (Utf8.encode_atBoundary text), Utf8.characters_encode] at read

/-- Three bytes of four, and behind them an `é` that comes in two buffers. -/
theorem drain_atBoundary_cutShort :
    let front := [0xF0, 0x9F, 0x98]
    let back := [0xC3, 0xA9]
    let former := ByteReader.ofSupplies [.bytes front]
    let latter := ByteReader.ofSupplies [.bytes back]
    let whole := ByteReader.ofSupplies [.bytes [0xF0, 0x9F],
      .failure ⟨.interrupted, "try again"⟩, .bytes [0x98, 0xC3], .bytes [0xA9]]
    Utf8.AtBoundary back ∧ former.Delivers front ∧ latter.Delivers back ∧
      whole.Delivers (front ++ back) ∧
      ∃ last, CharStream.drain ({ bytes := whole } : Utf8Stream) = .ok ['\ufffd', 'é'] last := by
  intro front back former latter whole
  have boundary : Utf8.AtBoundary back := by
    rintro _ ⟨⟩
    decide
  have ahead : former.Delivers front := ⟨by decide, rfl⟩
  have behind : latter.Delivers back := ⟨by decide, rfl⟩
  have joined : whole.Delivers (front ++ back) := ⟨by decide, rfl⟩
  have cutShort : Utf8.characters front = ['\ufffd'] := by cbv
  have letter : Utf8.characters back = ['é'] := by cbv
  obtain ⟨_, _, read, _⟩ :=
    drain_atBoundary front back boundary former latter whole ahead behind joined
  rw [cutShort, letter] at read
  exact ⟨boundary, ahead, behind, joined, read⟩

end Reckon
