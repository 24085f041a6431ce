import Reckon.Expression.Rejection
import Reckon.Log
import Reckon.Value

namespace Reckon

inductive Event where
  | consumed (character : Char) (column : Nat)
  | evaluated (value : Value)
  | failed (error : EvaluationError)
deriving DecidableEq, Repr

def Event.entry : Event → LogEntry
  | consumed character column =>
    ⟨.trace, "contas_eval::cursor",
      s!"consume ch={Quotation.ofCharacter character} column={column}"⟩
  | evaluated value => ⟨.debug, "contas_eval", s!"evaluated expression value={value}"⟩
  | failed error => ⟨.debug, "contas_eval", s!"evaluation failed error={error.message}"⟩

theorem Event.oneLine_entry (event : Event)
    (readable : ∀ failure, event = .failed (.unreadable failure) →
      '\n' ∉ failure.message.toList) : event.entry.OneLine := by
  unfold entry
  cases event with
  | consumed character column =>
    have spelled := Quotation.oneLine_ofCharacter character
    exact .ofMessage (by simp) (by simp [toString_words, spelled, oneLine_toDigits])
  | evaluated value =>
    have shown := Value.oneLine_toString value
    exact .ofMessage (by simp) (by simp [toString_words, shown])
  | failed error =>
    have message := error.oneLine_message fun failure same => readable failure (by rw [same])
    exact .ofMessage (by simp) (by simp [toString_words, message])

end Reckon
