import Mathlib.Data.List.Induction
import Reckon.Text.Position

namespace Reckon

def lastLine (text : List Char) : List Char := (text.reverse.takeWhile (· ≠ '\n')).reverse

private theorem lastLine_lineFeed (text : List Char) : lastLine (text ++ ['\n']) = [] := by
  simp [lastLine]

private theorem lastLine_concat (text : List Char) {character : Char} (inLine : character ≠ '\n') :
    lastLine (text ++ [character]) = lastLine text ++ [character] := by
  simp [lastLine, inLine]

namespace Position

theorem afterAll_concat (position : Position) (text : List Char) (character : Char) :
    position.afterAll (text ++ [character]) = (position.afterAll text).after character := by
  rw [afterAll, List.foldl_append]
  rfl

theorem afterAll_start (text : List Char) :
    start.afterAll text = ⟨1 + text.count '\n', 1 + (lastLine text).length,
      (String.ofList text).utf8ByteSize⟩ := by
  have feedSize : (String.ofList ['\n']).utf8ByteSize = 1 := rfl
  induction text using List.reverseRecOn with
  | nil => rfl
  | append_singleton text character ih =>
    rw [afterAll_concat, ih, after, String.ofList_append, String.utf8ByteSize_append]
    by_cases feed : character = '\n'
    · subst feed
      simp [lastLine_lineFeed, Nat.add_assoc, feedSize]
    · simp [lastLine_concat text feed, Nat.add_assoc, feed]

end Position

end Reckon
