import Reckon.Stream.ByteReader
import Reckon.Stream.CharStream

/-! Characters decoded from bytes, one at a time. A read that hands out a character has
consumed the bytes of it and no others. A read that fails inside a sequence has consumed what
came of it before the failure, and those bytes are in no character. A sequence that is not the
UTF-8 of any character counts as one U+FFFD. -/

namespace Reckon

namespace Utf8

/-- How many bytes the sequence that begins with `lead` should have. A byte that
begins none stands alone. -/
def sequenceLength (lead : UInt8) : Nat :=
  if 0xC2 ≤ lead ∧ lead ≤ 0xDF then 2
  else if 0xE0 ≤ lead ∧ lead ≤ 0xEF then 3
  else if 0xF0 ≤ lead ∧ lead ≤ 0xF4 then 4
  else 1

def isContinuation (byte : UInt8) : Bool := byte &&& 0xC0 == 0x80

/-- Takes up to `missing` continuation bytes and stops before anything else. -/
def takeContinuations : (missing : Nat) → EStateM ReadError ByteReader (List UInt8)
  | 0 => return []
  | missing + 1 => do
    match ← ByteReader.peek with
    | none => return []
    | some byte =>
      if isContinuation byte then
        ByteReader.skip
        return byte :: (← takeContinuations missing)
      else return []

/-- The character whose encoding is `bytes`, if there is one. -/
def scalar? (bytes : List UInt8) : Option Char :=
  (bytes.toByteArray.utf8DecodeChar? 0).filter (String.utf8EncodeChar · = bytes)

/-- Stands for bytes that encode no character. -/
def replacement : Char := '\ufffd'

def next : EStateM ReadError ByteReader (Option Char) := do
  match ← ByteReader.peek with
  | none => return none
  | some lead =>
    ByteReader.skip
    let rest ← takeContinuations (sequenceLength lead - 1)
    return some ((scalar? (lead :: rest)).getD replacement)

/-- What may be taken where `missing` bytes are missing: continuation bytes, and no more of
them than that. -/
structure Continues (missing : Nat) (taken : List UInt8) : Prop where
  length_le : taken.length ≤ missing
  continuation : ∀ byte ∈ taken, isContinuation byte

namespace Continues

variable {missing : Nat} {byte : UInt8} {taken : List UInt8}

private theorem nil (missing : Nat) : Continues missing [] := ⟨Nat.zero_le _, nofun⟩

private theorem cons (continues : isContinuation byte) (others : Continues missing taken) :
    Continues (missing + 1) (byte :: taken) where
  length_le := Nat.succ_le_succ others.length_le
  continuation := List.forall_mem_cons.mpr ⟨continues, others.continuation⟩

end Continues

/-- The continuation bytes that are taken, and those of a failed read, come off the front. -/
theorem takeContinuations_unread (missing : Nat) (reader : ByteReader) :
    match takeContinuations missing reader with
    | .ok taken rest => taken ++ rest.unread = reader.unread ∧ Continues missing taken
    | .error _ rest => 0 < missing ∧
      ∃ taken, taken ++ rest.unread = reader.unread ∧ Continues missing taken := by
  induction missing generalizing reader with
  | zero => exact ⟨rfl, .nil 0⟩
  | succ missing ih =>
    have peeked := reader.peek_unread
    simp only [takeContinuations, bind, EStateM.bind]
    split at peeked <;> rename_i answer
    · simpa [answer, pure, EStateM.pure] using ⟨peeked, .nil _⟩
    · rename_i byte rest
      obtain ⟨shown, kept⟩ := peeked
      by_cases continues : isContinuation byte
      · obtain ⟨after, skipped, consumed⟩ := rest.skip_unread byte shown
        have later := ih after
        simp only [answer, continues, if_true, EStateM.bind, skipped]
        split at later <;> rename_i outcome
        · obtain ⟨split, others⟩ := later
          simp only [outcome, pure, EStateM.pure, ← kept, ← consumed, ← split]
          exact ⟨rfl, others.cons continues⟩
        · obtain ⟨_, taken, split, others⟩ := later
          simp only [outcome, ← kept, ← consumed, ← split]
          exact ⟨Nat.succ_pos _, byte :: taken, rfl, others.cons continues⟩
      · simpa [answer, continues, pure, EStateM.pure] using ⟨kept, .nil _⟩
    · simpa [answer] using ⟨[], peeked, .nil _⟩

/-- What a read costs. A character takes a byte and its continuations, and so does a failure
on the way to one; else nothing is taken. -/
theorem next_unread (reader : ByteReader) :
    match next reader with
    | .ok none rest => rest.unread = reader.unread
    | .ok (some character) rest => ∃ lead taken, lead :: taken ++ rest.unread = reader.unread ∧
      Continues (sequenceLength lead - 1) taken ∧
      character = (scalar? (lead :: taken)).getD replacement
    | .error _ rest => rest.unread = reader.unread ∨
      ∃ lead taken, lead :: taken ++ rest.unread = reader.unread ∧
        1 < sequenceLength lead ∧ Continues (sequenceLength lead - 1) taken := by
  have peeked := reader.peek_unread
  simp only [next, bind, EStateM.bind]
  split at peeked <;> rename_i answer
  · simpa [answer, pure, EStateM.pure] using peeked
  · rename_i lead rest
    obtain ⟨shown, kept⟩ := peeked
    obtain ⟨after, skipped, consumed⟩ := rest.skip_unread lead shown
    have later := takeContinuations_unread (sequenceLength lead - 1) after
    simp only [answer, EStateM.bind, skipped]
    split at later <;> rename_i outcome
    · rename_i taken final
      obtain ⟨split, continues⟩ := later
      simp only [outcome, pure, EStateM.pure, ← kept, ← consumed, ← split]
      exact ⟨lead, taken, rfl, continues, rfl⟩
    · obtain ⟨more, taken, split, continues⟩ := later
      simp only [outcome, ← kept, ← consumed, ← split]
      exact .inr ⟨lead, taken, rfl, by omega, continues⟩
  · simpa [answer] using .inl peeked

end Utf8

/-- A stream of decoded characters that remembers every one it handed out, the
latest in front. -/
structure Utf8Stream where
  bytes : ByteReader
  delivered : List Char := []

namespace Utf8Stream

/-- What was read, so that a rejected input can be shown as far as it was needed. -/
def text (stream : Utf8Stream) : String := String.ofList stream.delivered.reverse

def next : EStateM ReadError Utf8Stream (Option Char) := fun stream =>
  match Utf8.next stream.bytes with
  | .ok none bytes => .ok none { stream with bytes }
  | .ok (some character) bytes => .ok (some character) ⟨bytes, character :: stream.delivered⟩
  | .error error bytes => .error error { stream with bytes }

end Utf8Stream

instance : CharStream Utf8Stream where
  next := Utf8Stream.next
  remaining stream := stream.bytes.unread.length
  remaining_next stream := by
    have law := Utf8.next_unread stream.bytes
    simp only [Utf8Stream.next]
    split at law
    · simp [law]
    · obtain ⟨lead, taken, consumed, _⟩ := law
      simp only [← consumed, List.cons_append, List.length_cons, List.length_append]
      omega
    · rcases law with same | ⟨lead, taken, consumed, _⟩
      · exact Nat.le_of_eq (congrArg List.length same)
      · simp only [← consumed, List.length_append]
        omega

end Reckon
