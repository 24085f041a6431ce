import Reckon.Proofs.Answers

namespace Reckon

def ascii (numbers : List Nat) : List Nat := numbers.filter (· < 0x80)

private theorem ascii_append (numbers more : List Nat) :
    ascii (numbers ++ more) = ascii numbers ++ ascii more :=
  List.filter_append ..

theorem ascii_eq_nil {numbers : List Nat} (high : ∀ number ∈ numbers, 0x80 ≤ number) :
    ascii numbers = [] :=
  List.filter_eq_nil_iff.mpr fun number member => by simpa using high number member

namespace Utf8

variable {lead : UInt8} {taken : List UInt8} {missing : Nat} {character : Char}

private theorem le_of_isContinuation {byte : UInt8} (continues : isContinuation byte) :
    0x80 ≤ byte.toNat := by
  have upper := (isContinuation_iff byte).mp continues
  omega

theorem le_of_one_lt_sequenceLength (long : 1 < sequenceLength lead) : 0x80 ≤ lead.toNat := by
  by_contra small
  rw [sequenceLength_eq, if_neg (by omega), if_neg (by omega), if_neg (by omega)] at long
  exact absurd long (Nat.lt_irrefl 1)

theorem ascii_of_high (high : 0x80 ≤ lead.toNat) (continues : ∀ byte ∈ taken, isContinuation byte) :
    ascii ((lead :: taken).map UInt8.toNat) = [] := by
  refine ascii_eq_nil fun number member => ?_
  rw [List.map_cons, List.mem_cons] at member
  rcases member with rfl | member
  · exact high
  · obtain ⟨byte, present, rfl⟩ := List.mem_map.mp member
    exact le_of_isContinuation (continues byte present)

theorem encoded_ascii (small : character.toNat < 0x80) :
    String.utf8EncodeChar character = [.ofNat character.toNat] :=
  if_pos (Nat.le_of_lt_succ small)

private theorem ascii_encoded (character : Char) :
    ascii ((String.utf8EncodeChar character).map UInt8.toNat) = ascii [character.toNat] := by
  by_cases small : character.toNat < 0x80
  · rw [encoded_ascii small, List.map_singleton, UInt8.toNat_ofNat', Nat.mod_eq_of_lt]
    exact Nat.lt_trans small (by decide)
  · obtain ⟨lead, rest, spelled, length, continues⟩ := encoded_lead character
    have several : character.utf8Size ≠ 1 := by
      rw [ne_eq, Char.utf8Size_eq_one_iff, UInt32.le_iff_toNat_le]
      exact fun low => small (Nat.lt_succ_of_le low)
    have whole := String.length_utf8EncodeChar character
    have positive := character.utf8Size_pos
    rw [spelled, List.length_cons] at whole
    rw [spelled, ascii_of_high (le_of_one_lt_sequenceLength (by omega)) continues]
    exact (ascii_eq_nil (by simpa using Nat.le_of_not_lt small)).symm

private theorem scalar?_ascii (small : lead.toNat < 0x80) :
    scalar? [lead] = some (.ofNat lead.toNat) := by
  have valid : lead.toNat.isValidChar := .inl (by omega)
  have same : (Char.ofNat lead.toNat).toNat = lead.toNat := by
    rw [Char.toNat_ofNat, if_pos valid]
  rw [scalar?_eq_some_iff, encoded_ascii (by omega), same, UInt8.ofNat_toNat]

theorem ascii_decoded (continues : Continues (sequenceLength lead - 1) taken) :
    ascii [((scalar? (lead :: taken)).getD replacement).toNat] =
      ascii ((lead :: taken).map UInt8.toNat) := by
  cases decoded : scalar? (lead :: taken) with
  | some character =>
    rw [Option.getD_some, scalar?_eq_some_iff.mp decoded, ascii_encoded]
  | none =>
    have high : 0x80 ≤ lead.toNat := by
      by_contra small
      have single : sequenceLength lead ≤ 1 :=
        Nat.le_of_not_lt fun long => small (le_of_one_lt_sequenceLength long)
      have alone : taken = [] := by
        have few := continues.length_le
        exact List.length_eq_zero_iff.mp (by omega)
      rw [alone, scalar?_ascii (Nat.lt_of_not_le small)] at decoded
      cases decoded
    rw [ascii_of_high high continues.continuation]
    rfl

/-- Whatever a read comes to, the ASCII that it takes is what it hands out. -/
theorem next_ascii (reader : ByteReader) :
    match next reader with
    | .ok answer rest => ∃ taken, taken ++ rest.unread = reader.unread ∧
      ascii (taken.map UInt8.toNat) = ascii (answer.toList.map Char.toNat)
    | .error _ rest => ∃ taken, taken ++ rest.unread = reader.unread ∧
      ascii (taken.map UInt8.toNat) = [] := by
  have law := next_unread reader
  split at law <;> rename_i answer <;> simp only [answer]
  · exact ⟨[], law, rfl⟩
  · obtain ⟨lead, taken, split, continues, rfl⟩ := law
    exact ⟨lead :: taken, split, (ascii_decoded continues).symm⟩
  · rcases law with same | ⟨lead, taken, split, long, continues⟩
    · exact ⟨[], same, rfl⟩
    · exact ⟨lead :: taken, split,
        ascii_of_high (le_of_one_lt_sequenceLength long) continues.continuation⟩

end Utf8

/-- The stream has handed out the ASCII that it has consumed of `bytes`, and remembers all
that it has handed out. -/
structure Utf8Stream.KeepsAscii (bytes : List UInt8) (answers : List Answer)
    (stream : Utf8Stream) : Prop where
  consumed : ∃ consumed, consumed ++ stream.bytes.unread = bytes ∧
    ascii ((Answer.returned answers).map Char.toNat) = ascii (consumed.map UInt8.toNat)
  delivered : stream.delivered = (Answer.returned answers).reverse

namespace Utf8Stream

variable {bytes : List UInt8} {answers : List Answer} {stream rest : Utf8Stream}

theorem KeepsAscii.after {answer : Answer} {taken : List UInt8}
    (keeps : stream.KeepsAscii bytes answers)
    (off : taken ++ rest.bytes.unread = stream.bytes.unread)
    (same : ascii (taken.map UInt8.toNat) = ascii ((Answer.returned [answer]).map Char.toNat))
    (told : rest.delivered = (Answer.returned [answer]).reverse ++ stream.delivered) :
    rest.KeepsAscii bytes (answers ++ [answer]) := by
  obtain ⟨⟨consumed, split, kept⟩, delivered⟩ := keeps
  refine ⟨⟨consumed ++ taken, ?_, ?_⟩, ?_⟩
  · rw [List.append_assoc, off, split]
  · rw [Answer.returned_append, List.map_append, List.map_append, ascii_append, ascii_append,
      kept, same]
  · rw [told, Answer.returned_append, List.reverse_append, delivered]

private theorem KeepsAscii.answer {answer : Option Char} (keeps : stream.KeepsAscii bytes answers)
    (read : CharStream.next stream = .ok answer rest) :
    rest.KeepsAscii bytes (answers ++ [.ok answer]) := by
  have law := Utf8.next_ascii stream.bytes
  simp only [CharStream.next, next] at read
  split at read <;> rename_i outcome <;> cases read <;> rw [outcome] at law
  · obtain ⟨taken, off, same⟩ := law
    exact keeps.after off same rfl
  · obtain ⟨taken, off, same⟩ := law
    exact keeps.after off same rfl

private theorem KeepsAscii.failure {error : ReadError} (keeps : stream.KeepsAscii bytes answers)
    (failed : CharStream.next stream = .error error rest) :
    rest.KeepsAscii bytes (answers ++ [.error error]) := by
  have law := Utf8.next_ascii stream.bytes
  simp only [CharStream.next, next] at failed
  split at failed <;> rename_i outcome <;> cases failed
  rw [outcome] at law
  obtain ⟨taken, off, same⟩ := law
  exact keeps.after off same rfl

theorem keepsAscii {reader : ByteReader} (asked : Asked { bytes := reader } answers stream) :
    stream.KeepsAscii reader.unread answers := by
  induction asked with
  | nothing => exact ⟨⟨[], rfl, rfl⟩, rfl⟩
  | answer _ read ih => exact ih.answer read
  | failure _ failed ih => exact ih.failure failed

end Utf8Stream

/-- However a reader fails and ends on the way, after any number of reads the characters of
ASCII that were handed out are the bytes of ASCII that were consumed, in their order. -/
theorem reads_keepAscii (reader : ByteReader) (reads : Nat) :
    let (answers, stream) := CharStream.ask ({ bytes := reader } : Utf8Stream) reads
    answers.length = reads ∧ stream.text = String.ofList (Answer.returned answers) ∧
      ∃ consumed, consumed ++ stream.bytes.unread = reader.unread ∧
        ascii ((Answer.returned answers).map Char.toNat) = ascii (consumed.map UInt8.toNat) := by
  obtain ⟨length, asked⟩ := CharStream.asked_ask ({ bytes := reader } : Utf8Stream) reads
  obtain ⟨consumed, delivered⟩ := Utf8Stream.keepsAscii asked
  refine ⟨length, ?_, consumed⟩
  rw [Utf8Stream.text, delivered, List.reverse_reverse]

/-- A failure takes the sequence that it breaks off, and an end cuts one short; the line feed
and the digit behind them stay. -/
example :
    let error := ReadError.mk .brokenPipe "broken pipe"
    let reader := ByteReader.ofSupplies [.bytes [0xE2, 0x82], .failure error, .bytes [0x0A, 0xC3],
      .endOfInput, .bytes [0x31]]
    (CharStream.ask ({ bytes := reader } : Utf8Stream) 5).1 =
      [.error error, .ok (some '\n'), .ok (some '\ufffd'), .ok (some '1'), .ok none] := by
  cbv

end Reckon
