import Reckon.Text.OneLine

namespace Reckon

inductive Severity where
  | warning
  | info
  | debug
  | trace
deriving DecidableEq, Repr

namespace Severity

def name : Severity → String
  | warning => "WARN"
  | info => "INFO"
  | debug => "DEBUG"
  | trace => "TRACE"

/-- Later severities say more about less. -/
def detail : Severity → Nat
  | warning => 0
  | info => 1
  | debug => 2
  | trace => 3

def admits (threshold severity : Severity) : Bool := severity.detail ≤ threshold.detail

theorem detail_le (severity : Severity) : severity.detail ≤ 3 := by
  cases severity <;> decide

end Severity

structure LogEntry where
  severity : Severity
  origin : String
  message : String
deriving DecidableEq, Repr

namespace LogEntry

def shown (entry : LogEntry) : String :=
  s!"{entry.severity.name} {entry.origin}: {entry.message}"

/-- The entry as a line of a log. Severities are aligned to the right, all in five columns. -/
def line (entry : LogEntry) (stamp : String) : String :=
  let indent := String.ofList (List.replicate (5 - entry.severity.name.length) ' ')
  s!"{stamp} {indent}{entry.shown}\n"

def OneLine (entry : LogEntry) : Prop := '\n' ∉ entry.shown.toList

theorem OneLine.isLine {entry : LogEntry} (oneLine : entry.OneLine) {stamp : String}
    (stamped : '\n' ∉ stamp.toList) : IsLine (entry.line stamp) := by
  refine ⟨stamp ++ " " ++ String.ofList (List.replicate (5 - entry.severity.name.length) ' ') ++
    entry.shown, ?_, ?_⟩
  · simp [line, toString_words, String.append_assoc]
  · rw [OneLine] at oneLine
    simp [stamped, oneLine]

theorem OneLine.ofMessage {entry : LogEntry} (origin : '\n' ∉ entry.origin.toList)
    (message : '\n' ∉ entry.message.toList) : entry.OneLine := by
  have name : '\n' ∉ entry.severity.name.toList := by
    cases entry.severity <;> simp [Severity.name]
  simp [OneLine, shown, toString_words, name, origin, message]

end LogEntry

end Reckon
