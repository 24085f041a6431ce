import Reckon.Proofs.Delivery

/-! Bytes cut into segments, one for each character that they are decoded to. The cuts
are a matter of the bytes alone: any reader that delivers them is read along the same
segments. -/

namespace Reckon

structure Segment where
  bytes : List UInt8
  character : Char
deriving DecidableEq, Repr

/-- The bytes are the encoding of the character, or U+FFFD stands for bytes that encode
none. -/
structure Segment.Faithful (segment : Segment) : Prop where
  nonempty : 1 ≤ segment.bytes.length
  short : segment.bytes.length ≤ 4
  decoded : segment.bytes = String.utf8EncodeChar segment.character ∨
    (∀ character, segment.bytes ≠ String.utf8EncodeChar character) ∧
      segment.character = Utf8.replacement

namespace Utf8

/-- The bytes behind `lead` that belong to the same character. -/
def continuations (lead : UInt8) (rest : List UInt8) : List UInt8 :=
  (rest.take (sequenceLength lead - 1)).takeWhile isContinuation

def segment (lead : UInt8) (taken : List UInt8) : Segment :=
  ⟨lead :: taken, (scalar? (lead :: taken)).getD replacement⟩

def segments : List UInt8 → List Segment
  | [] => []
  | lead :: rest =>
    let taken := continuations lead rest
    segment lead taken :: segments (rest.drop taken.length)
termination_by bytes => bytes.length

/-- The characters that `bytes` are decoded to. -/
def characters (bytes : List UInt8) : List Char := (segments bytes).map Segment.character

/-- The encoding of a text, character by character. -/
def encode (text : List Char) : List UInt8 := text.flatMap String.utf8EncodeChar

theorem encode_append (text more : List Char) :
    encode (text ++ more) = encode text ++ encode more :=
  List.flatMap_append

@[simp] theorem characters_nil : characters [] = [] := by
  simp [characters, segments]

private theorem continuations_append_drop (lead : UInt8) (rest : List UInt8) :
    continuations lead rest ++ rest.drop (continuations lead rest).length = rest := by
  have front : continuations lead rest <+: rest :=
    (List.takeWhile_prefix _).trans (List.take_prefix ..)
  rw [List.prefix_iff_eq_append.mp front]

theorem segments_bytes (bytes : List UInt8) : (segments bytes).flatMap Segment.bytes = bytes := by
  fun_induction segments bytes with
  | case1 => rfl
  | case2 lead rest taken ih =>
    rw [List.flatMap_cons, ih]
    exact congrArg (lead :: ·) (continuations_append_drop lead rest)

theorem scalar?_eq_some_iff {bytes : List UInt8} {character : Char} :
    scalar? bytes = some character ↔ bytes = String.utf8EncodeChar character := by
  rw [scalar?, Option.filter_eq_some_iff, decide_eq_true_iff]
  constructor
  · intro decoded
    exact decoded.2.symm
  · rintro rfl
    refine ⟨?_, rfl⟩
    simpa [List.utf8Encode_singleton] using
      List.utf8DecodeChar?_utf8Encode_singleton (c := character)

private theorem sequenceLength_le_four (lead : UInt8) : sequenceLength lead ≤ 4 := by
  unfold sequenceLength
  split
  · decide
  · split
    · decide
    · split <;> decide

private theorem segment_faithful (lead : UInt8) (rest : List UInt8) :
    (segment lead (continuations lead rest)).Faithful where
  nonempty := by simp [segment]
  short := by
    have few : (continuations lead rest).length ≤ sequenceLength lead - 1 :=
      Nat.le_trans (List.takeWhile_prefix _).length_le (List.length_take_le ..)
    have bound := sequenceLength_le_four lead
    simp only [segment, List.length_cons]
    omega
  decoded := by
    simp only [segment]
    cases found : scalar? (lead :: continuations lead rest) with
    | some character => exact .inl (scalar?_eq_some_iff.mp found)
    | none =>
      refine .inr ⟨?_, rfl⟩
      intro character same
      rw [scalar?_eq_some_iff.mpr same] at found
      cases found

theorem segments_faithful (bytes : List UInt8) : ∀ segment ∈ segments bytes, segment.Faithful := by
  fun_induction segments bytes with
  | case1 => nofun
  | case2 lead rest taken ih =>
    intro other member
    rcases List.mem_cons.mp member with rfl | later
    · exact segment_faithful lead rest
    · exact ih other later

/-- A byte continues a character if its two highest bits are `10`. -/
theorem isContinuation_iff (byte : UInt8) : isContinuation byte ↔ byte.toNat / 64 = 2 := by
  have all : ∀ value < 256, value &&& 0xC0 = 0x80 ↔ value / 64 = 2 := by decide +kernel
  rw [isContinuation, beq_iff_eq, ← UInt8.toNat_inj, UInt8.toNat_and]
  exact all byte.toNat byte.toNat_lt

private theorem isContinuation_ofNat (value : Nat) :
    isContinuation (.ofNat (value % 64 + 128)) := by
  rw [isContinuation_iff, UInt8.toNat_ofNat']
  omega

theorem sequenceLength_eq (lead : UInt8) : sequenceLength lead =
    if 0xC2 ≤ lead.toNat ∧ lead.toNat ≤ 0xDF then 2
    else if 0xE0 ≤ lead.toNat ∧ lead.toNat ≤ 0xEF then 3
    else if 0xF0 ≤ lead.toNat ∧ lead.toNat ≤ 0xF4 then 4
    else 1 := by
  simp only [sequenceLength, UInt8.le_iff_toNat_le]
  rfl

/-- The first byte of an encoding tells its length, and the others continue it. -/
theorem encoded_lead (character : Char) : ∃ lead rest,
    String.utf8EncodeChar character = lead :: rest ∧ sequenceLength lead = rest.length + 1 ∧
      ∀ byte ∈ rest, isContinuation byte := by
  have limit : character.val.toNat < 0x110000 := character.valid.elim (by omega) (·.2)
  fun_cases String.utf8EncodeChar character with
  | case1 code one =>
    refine ⟨_, _, rfl, ?_, nofun⟩
    rw [sequenceLength_eq, UInt8.toNat_ofNat', if_neg (by omega), if_neg (by omega),
      if_neg (by omega)]
    rfl
  | case2 code notOne two =>
    refine ⟨_, _, rfl, ?_, ?_⟩
    · rw [sequenceLength_eq, UInt8.toNat_ofNat', if_pos (by omega)]
      rfl
    · simp only [List.forall_mem_singleton, isContinuation_ofNat]
  | case3 code notOne notTwo three =>
    refine ⟨_, _, rfl, ?_, ?_⟩
    · rw [sequenceLength_eq, UInt8.toNat_ofNat', if_neg (by omega), if_pos (by omega)]
      rfl
    · simp only [List.forall_mem_cons, isContinuation_ofNat, true_and]
      nofun
  | case4 code notOne notTwo notThree =>
    refine ⟨_, _, rfl, ?_, ?_⟩
    · rw [sequenceLength_eq, UInt8.toNat_ofNat', if_neg (by omega), if_neg (by omega),
        if_pos (by omega)]
      rfl
    · simp only [List.forall_mem_cons, isContinuation_ofNat, true_and]
      nofun

private theorem segments_encoded_append (character : Char) (more : List UInt8) :
    segments (String.utf8EncodeChar character ++ more) =
      ⟨String.utf8EncodeChar character, character⟩ :: segments more := by
  obtain ⟨lead, rest, spelled, length, continues⟩ := encoded_lead character
  have taken : continuations lead (rest ++ more) = rest := by
    rw [continuations, length, Nat.add_sub_cancel, List.take_left' rfl, ← List.append_nil rest,
      List.takeWhile_append_of_pos continues, List.takeWhile_nil]
  have decoded : scalar? (lead :: rest) = some character := scalar?_eq_some_iff.mpr spelled.symm
  rw [spelled, List.cons_append, segments, taken, segment, decoded, List.drop_left' rfl]
  rfl

private theorem segments_encode_append (text : List Char) (more : List UInt8) :
    segments (encode text ++ more) =
      text.map (fun character => ⟨String.utf8EncodeChar character, character⟩) ++
        segments more := by
  induction text with
  | nil => rfl
  | cons character text ih =>
    rw [encode, List.flatMap_cons, List.append_assoc, segments_encoded_append]
    exact congrArg (_ :: ·) ih

theorem characters_encode_append (text : List Char) (more : List UInt8) :
    characters (encode text ++ more) = text ++ characters more := by
  rw [characters, segments_encode_append, List.map_append, List.map_map]
  exact congrArg (· ++ characters more) (List.map_id text)

theorem characters_encode (text : List Char) : characters (encode text) = text := by
  simpa using characters_encode_append text []

theorem characters_line (line : List Char) (others : List UInt8) :
    characters (encode line ++ 0x0A :: others) = line ++ '\n' :: characters others := by
  have feed : encode (line ++ ['\n']) = encode line ++ [0x0A] := encode_append ..
  have spelled := characters_encode_append (line ++ ['\n']) others
  rwa [feed, List.append_assoc, List.append_assoc] at spelled

end Utf8

end Reckon
