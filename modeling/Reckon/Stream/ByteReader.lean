import Reckon.Stream.ReadError

namespace Reckon

/-- What one request for more bytes is answered with. -/
inductive Supply where
  | bytes (buffer : List UInt8)
  | endOfInput
  | failure (error : ReadError)
deriving DecidableEq, Repr

/-- The bytes that have arrived and are not consumed, and the answers to come.
After the last of them the input has ended. -/
structure ByteReader where
  buffer : List UInt8
  supplies : List Supply
deriving DecidableEq, Repr

namespace ByteReader

def ofSupplies (supplies : List Supply) : ByteReader := ⟨[], supplies⟩

/-- The bytes in buffers of `capacity` bytes, the last of which may be shorter. -/
def buffersOf (capacity : Nat) (bytes : List UInt8) : List Supply :=
  if capacity = 0 ∨ bytes = [] then []
  else .bytes (bytes.take capacity) :: buffersOf capacity (bytes.drop capacity)
termination_by bytes.length
decreasing_by
  rename_i more
  have held := List.length_pos_iff.mpr (not_or.mp more).2
  simp only [List.length_drop]
  omega

/-- A reader that fetches at most `capacity` bytes at a time; without any room it
fetches none. -/
def ofBytes (bytes : List UInt8) (capacity : Nat) : ByteReader :=
  ofSupplies (buffersOf capacity bytes)

/-- Requests buffers until one has a byte. An interrupted request is repeated;
an answer that ends the wait with nothing is used up by it. -/
def request : List Supply → EStateM.Result ReadError ByteReader (Option UInt8)
  | [] => .ok none ⟨[], []⟩
  | .bytes [] :: supplies => request supplies
  | .bytes (byte :: buffer) :: supplies => .ok (some byte) ⟨byte :: buffer, supplies⟩
  | .endOfInput :: supplies => .ok none ⟨[], supplies⟩
  | .failure error :: supplies =>
    if error.kind = .interrupted then request supplies else .error error ⟨[], supplies⟩

/-- The byte in front, or none at the end of the input. -/
def peek : EStateM ReadError ByteReader (Option UInt8)
  | ⟨byte :: buffer, supplies⟩ => .ok (some byte) ⟨byte :: buffer, supplies⟩
  | ⟨[], supplies⟩ => request supplies

def skip : EStateM ReadError ByteReader Unit :=
  modify fun reader => { reader with buffer := reader.buffer.tail }

/-- The bytes that nothing has consumed, arrived or not. -/
def unread (reader : ByteReader) : List UInt8 :=
  reader.buffer ++ reader.supplies.flatMap fun
    | .bytes buffer => buffer
    | _ => []

theorem request_unread (supplies : List Supply) :
    match request supplies with
    | .ok none rest => rest.unread = (ofSupplies supplies).unread
    | .ok (some byte) rest =>
      rest.buffer.head? = some byte ∧ rest.unread = (ofSupplies supplies).unread
    | .error _ rest => rest.unread = (ofSupplies supplies).unread := by
  fun_induction request supplies with
  | case1 => rfl
  | case2 supplies ih => simpa [unread, ofSupplies] using ih
  | case3 => simp [unread, ofSupplies]
  | case4 => simp [unread, ofSupplies]
  | case5 error supplies interrupted ih => simpa [unread, ofSupplies] using ih
  | case6 => simp [unread, ofSupplies]

theorem peek_unread (reader : ByteReader) :
    match peek reader with
    | .ok none rest => rest.unread = reader.unread
    | .ok (some byte) rest => rest.buffer.head? = some byte ∧ rest.unread = reader.unread
    | .error _ rest => rest.unread = reader.unread := by
  rcases reader with ⟨buffer, supplies⟩
  cases buffer with
  | nil => exact request_unread supplies
  | cons byte buffer => exact ⟨rfl, rfl⟩

theorem skip_unread (reader : ByteReader) (byte : UInt8)
    (shown : reader.buffer.head? = some byte) :
    ∃ rest, skip reader = .ok () rest ∧ byte :: rest.unread = reader.unread := by
  rcases reader with ⟨buffer, supplies⟩
  cases buffer with
  | nil => simp at shown
  | cons first buffer =>
    simp only [List.head?_cons, Option.some.injEq] at shown
    subst shown
    exact ⟨⟨buffer, supplies⟩, rfl, rfl⟩

end ByteReader

end Reckon
