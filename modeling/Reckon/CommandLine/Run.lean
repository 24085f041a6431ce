import Reckon.CommandLine.Arguments
import Reckon.Expression.Expectation

/-! One run of the program. Standard output carries the answer alone; the log and
the report of a failure go to the error stream. -/

namespace Reckon

namespace CommandLine

/-- What a run needs from outside. The stamp stands in front of every log line. What is said of
arguments that ask for no evaluation is left to the parser of the arguments. -/
structure World where
  standardInput : ByteReader
  openFile : String → Except ReadError ByteReader
  terminal : Bool
  stamp : String
  help : String := ""
  usage : String := ""

structure Outcome where
  status : Nat
  output : String
  errors : String
deriving DecidableEq, Repr

/-- An evaluation with the text it read, under the name that reports use for it. -/
structure Attempt where
  document : Document
  result : Except EvaluationError Value
  log : List LogEntry

namespace Channel

/-- Announces where the expression comes from. A path is shown as it is. -/
def entry (channel : Channel) : LogEntry :=
  let source :=
    match channel with
    | argument _ => Quotation.ofText "argument"
    | file path => path
    | standardInput => Quotation.ofText "stdin"
  ⟨.info, "contas", s!"evaluating expression source={source}"⟩

/-- Bytes are shown only as far as they were read. -/
def attemptBytes (channel : Channel) (name : String) (bytes : ByteReader) : Attempt :=
  let evaluation := evaluateBytes bytes
  ⟨⟨name, evaluation.source.text⟩, evaluation.result,
    channel.entry :: evaluation.log.map Event.entry⟩

def attempt (channel : Channel) (world : World) : Attempt :=
  match channel with
  | argument expression =>
    let evaluation := evaluateText expression
    ⟨⟨"<expr>", expression⟩, evaluation.result,
      channel.entry :: evaluation.log.map Event.entry⟩
  | file path =>
    match world.openFile path with
    | .ok bytes => channel.attemptBytes path bytes
    | .error error => ⟨⟨path, ""⟩, .error (.unreadable error), [channel.entry]⟩
  | standardInput => channel.attemptBytes "<stdin>" world.standardInput

end Channel

/-- How far down the log is shown. -/
def threshold : (verbosity : Nat) → Severity
  | 0 => .warning
  | 1 => .info
  | 2 => .debug
  | _ => .trace

def logLines (verbosity : Nat) (stamp : String) (log : List LogEntry) : String :=
  String.join
    ((log.filter fun entry => (threshold verbosity).admits entry.severity).map (·.line stamp))

def Command.answer (value : Value) : Command → String
  | eval => s!"{value}\n"
  | check => "ok\n"

def Attempt.complaint (attempt : Attempt) (colours : Bool) : EvaluationError → String
  | .rejected rejection => rejection.report attempt.document colours ++ "\n"
  | .unreadable error => s!"error: could not read {attempt.document.name}: {error.message}\n"

def Request.run (request : Request) (world : World) : Outcome :=
  let attempt := request.channel.attempt world
  let lines := logLines request.verbosity world.stamp attempt.log
  match attempt.result with
  | .ok value => ⟨0, request.command.answer value, lines⟩
  | .error error =>
    ⟨1, "", lines ++ attempt.complaint (!request.plain && world.terminal) error⟩

def run (arguments : List String) (world : World) : Outcome :=
  match invocation arguments with
  | .request request => request.run world
  | .version => ⟨0, "contas 0.1.0\n", ""⟩
  | .help => ⟨0, world.help, ""⟩
  | .misuse => ⟨2, "", world.usage⟩

end CommandLine

end Reckon
