import Reckon.Stream.Utf8

namespace Reckon

/-- An answer that brings bytes, or only asks to try again. -/
def Supply.Reliable : Supply → Prop
  | .bytes _ => True
  | .endOfInput => False
  | .failure error => error.kind = .interrupted

instance : DecidablePred Supply.Reliable
  | .bytes _ => .isTrue trivial
  | .endOfInput => .isFalse id
  | .failure error => inferInstanceAs (Decidable (error.kind = .interrupted))

namespace ByteReader

/-- The reader hands out exactly `bytes` and then reports the end of the input. -/
structure Delivers (reader : ByteReader) (bytes : List UInt8) : Prop where
  reliable : ∀ supply ∈ reader.supplies, supply.Reliable
  unread : reader.unread = bytes

private theorem request_delivers (supplies : List Supply)
    (reliable : ∀ supply ∈ supplies, supply.Reliable) :
    ∃ rest, request supplies = .ok (ofSupplies supplies).unread.head? rest ∧
      rest.Delivers (ofSupplies supplies).unread ∧
      rest.buffer.head? = (ofSupplies supplies).unread.head? := by
  fun_induction request supplies with
  | case1 => exact ⟨_, rfl, ⟨List.forall_mem_nil _, rfl⟩, rfl⟩
  | case2 supplies ih =>
    have others := ih fun supply member => reliable supply (List.mem_cons_of_mem _ member)
    simpa [unread, ofSupplies] using others
  | case3 byte buffer supplies =>
    refine ⟨⟨byte :: buffer, supplies⟩, rfl, ⟨?_, rfl⟩, rfl⟩
    exact fun supply member => reliable supply (List.mem_cons_of_mem _ member)
  | case4 => exact (reliable .endOfInput List.mem_cons_self).elim
  | case5 error supplies interrupted ih =>
    have others := ih fun supply member => reliable supply (List.mem_cons_of_mem _ member)
    simpa [unread, ofSupplies] using others
  | case6 error supplies final => exact absurd (reliable _ List.mem_cons_self) final

namespace Delivers

variable {reader : ByteReader} {byte : UInt8} {bytes : List UInt8}

theorem peek (delivers : reader.Delivers bytes) : ∃ rest,
    reader.peek = .ok bytes.head? rest ∧ rest.Delivers bytes ∧
      rest.buffer.head? = bytes.head? := by
  obtain ⟨reliable, rfl⟩ := delivers
  rcases reader with ⟨_ | ⟨byte, buffer⟩, supplies⟩
  · exact request_delivers supplies reliable
  · exact ⟨_, rfl, ⟨reliable, rfl⟩, rfl⟩

theorem skip (delivers : reader.Delivers (byte :: bytes))
    (shown : reader.buffer.head? = some byte) :
    ∃ rest, reader.skip = .ok () rest ∧ rest.Delivers bytes := by
  obtain ⟨rest, skipped, consumed⟩ := reader.skip_unread byte shown
  refine ⟨rest, skipped, ?_, ?_⟩
  · cases skipped
    exact delivers.reliable
  · rw [delivers.unread] at consumed
    exact (List.cons.inj consumed).2

end Delivers

private theorem reliable_buffersOf (capacity : Nat) (bytes : List UInt8) :
    ∀ supply ∈ buffersOf capacity bytes, supply.Reliable := by
  fun_induction buffersOf capacity bytes with
  | case1 => nofun
  | case2 bytes more ih =>
    intro supply member
    rcases List.mem_cons.mp member with rfl | later
    · trivial
    · exact ih supply later

private theorem unread_buffersOf {capacity : Nat} (room : 0 < capacity) (bytes : List UInt8) :
    (ofSupplies (buffersOf capacity bytes)).unread = bytes := by
  fun_induction buffersOf capacity bytes with
  | case1 bytes done =>
    have none : bytes = [] := done.resolve_left (Nat.ne_of_gt room)
    simp [none, unread, ofSupplies]
  | case2 bytes more ih =>
    simp only [unread, ofSupplies, List.nil_append] at ih
    simp [unread, ofSupplies, ih]

theorem ofBytes_delivers {capacity : Nat} (room : 0 < capacity) (bytes : List UInt8) :
    (ofBytes bytes capacity).Delivers bytes :=
  ⟨reliable_buffersOf capacity bytes, unread_buffersOf room bytes⟩

end ByteReader

namespace Utf8

theorem takeContinuations_delivers {reader : ByteReader} {bytes : List UInt8} (missing : Nat)
    (delivers : reader.Delivers bytes) :
    ∃ taken others rest, taken = (bytes.take missing).takeWhile isContinuation ∧
      bytes = taken ++ others ∧ takeContinuations missing reader = .ok taken rest ∧
      rest.Delivers others := by
  induction missing generalizing reader bytes with
  | zero => exact ⟨[], bytes, reader, rfl, rfl, rfl, delivers⟩
  | succ missing ih =>
    obtain ⟨shown, peeked, delivers, front⟩ := delivers.peek
    simp only [takeContinuations, bind, EStateM.bind, peeked]
    cases bytes with
    | nil => exact ⟨[], [], shown, rfl, rfl, rfl, delivers⟩
    | cons byte bytes =>
      by_cases continues : isContinuation byte
      · obtain ⟨after, skipped, delivers⟩ := delivers.skip front
        obtain ⟨taken, others, rest, same, split, outcome, left⟩ := ih delivers
        refine ⟨byte :: taken, others, rest, ?_, by rw [split]; rfl, ?_, left⟩
        · simp [continues, same]
        · simp [continues, skipped, outcome, EStateM.bind, pure, EStateM.pure]
      · refine ⟨[], byte :: bytes, shown, ?_, rfl, ?_, delivers⟩
        · simp [continues]
        · simp [continues, pure, EStateM.pure]

end Utf8

end Reckon
