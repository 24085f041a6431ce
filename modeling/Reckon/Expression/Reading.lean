import Reckon.Expression.Scanner

/-! What a grammar rule makes of the input in front of a scanner. A reading never
has more left to read than there was, and so rules that consume something before
they call one another come to an end. -/

namespace Reckon

variable {σ α β : Type}

/-- The scanner that a step leaves, whether it succeeded or failed. -/
def scannerAfter : EStateM.Result EvaluationError (Scanner σ) α → Scanner σ
  | .ok _ scanner => scanner
  | .error _ scanner => scanner

namespace Scan

variable {first : Scan σ α} {scanner middle : Scanner σ}

theorem bind_ok {value : α} (success : first scanner = .ok value middle) (later : α → Scan σ β) :
    (first >>= later) scanner = later value middle := by
  change EStateM.bind first later scanner = later value middle
  rw [EStateM.bind, success]

theorem bind_error {error : EvaluationError} (failure : first scanner = .error error middle)
    (later : α → Scan σ β) : (first >>= later) scanner = .error error middle := by
  change EStateM.bind first later scanner = .error error middle
  rw [EStateM.bind, failure]

end Scan

structure Reading [CharStream σ] (start : Scanner σ) (α : Type) where
  outcome : EStateM.Result EvaluationError (Scanner σ) α
  unread_le : (scannerAfter outcome).unread ≤ start.unread

namespace Reading

variable [CharStream σ] {start : Scanner σ}

@[inline] def done (value : α) (scanner : Scanner σ)
    (bound : scanner.unread ≤ start.unread := by exact Nat.le_refl _) : Reading start α :=
  ⟨.ok value scanner, bound⟩

@[inline] def reject (cause : Cause) : Reading start α :=
  ⟨Scanner.reject cause start, Nat.le_refl _⟩

/-- Goes on with `next` where this reading succeeded; a failure is final. -/
@[inline] def andThen (reading : Reading start α)
    (next : α → (rest : Scanner σ) → rest.unread ≤ start.unread → Reading rest β) :
    Reading start β :=
  match reading with
  | ⟨.ok value rest, bound⟩ =>
    let later := next value rest bound
    ⟨later.outcome, Nat.le_trans later.unread_le bound⟩
  | ⟨.error error rest, bound⟩ => ⟨.error error rest, bound⟩

@[inline] def consuming (start : Scanner σ) (expected : Char)
    (next : (rest : Scanner σ) → rest.unread < start.unread → Reading rest β) :
    Reading start β :=
  match consumed : start.consume expected with
  | .ok () rest =>
    let later := next rest (Scanner.unread_lt_of_consume consumed)
    ⟨later.outcome,
      Nat.le_trans later.unread_le (Nat.le_of_lt (Scanner.unread_lt_of_consume consumed))⟩
  | .error error rest => ⟨.error error rest, Scanner.unread_le_of_consume_error consumed⟩

/-- Goes on one level deeper; the way back up is left to `next`. -/
@[inline] def descending (start : Scanner σ)
    (next : (inner : Scanner σ) → inner.unread = start.unread → Reading inner β) :
    Reading start β :=
  match descended : start.descend with
  | .ok () inner =>
    have same := Scanner.unread_of_descend descended
    let later := next inner same
    ⟨later.outcome, Nat.le_trans later.unread_le (Nat.le_of_eq same)⟩
  | .error error rest =>
    have same := Scanner.eq_of_descend_error descended
    ⟨.error error rest, Nat.le_of_eq (congrArg Scanner.unread same)⟩

def step (rule : (start : Scanner σ) → Reading start α) : Scan σ α :=
  fun start => (rule start).outcome

end Reading

end Reckon
