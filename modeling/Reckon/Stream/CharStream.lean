import Reckon.Stream.ReadError

/-! Anything that hands out characters in order can be evaluated. A stream may
fail, and may have more to give after a failure or after it reported its end. -/

namespace Reckon

/-- A stream holds finitely much: `remaining` bounds the characters it can still
deliver, and whatever loop consumes characters ends because of it. -/
class CharStream (σ : Type) where
  next : EStateM ReadError σ (Option Char)
  remaining : σ → Nat
  remaining_next : ∀ source, match next source with
    | .ok (some _) rest => remaining rest < remaining source
    | .ok none rest => remaining rest ≤ remaining source
    | .error _ rest => remaining rest ≤ remaining source

/-- A text in memory hands out its characters and never fails. -/
instance : CharStream (List Char) where
  next
    | [] => .ok none []
    | character :: rest => .ok (some character) rest
  remaining := List.length
  remaining_next source := by cases source <;> simp

end Reckon
