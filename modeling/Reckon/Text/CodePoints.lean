/-! Sets of characters, as ascending ranges of code points with both ends
included. The character properties of this library are such sets. -/

namespace Reckon

abbrev CodePoints := List (Nat × Nat)

/-- Whether a code point lies in one of the ranges. The ranges ascend, so the
search stops at the first that begins beyond it. -/
def CodePoints.has : CodePoints → (codePoint : Nat) → Bool
  | [], _ => false
  | (first, last) :: ranges, codePoint =>
    if codePoint < first then false
    else if codePoint ≤ last then true
    else CodePoints.has ranges codePoint

end Reckon
