import Reckon.CommandLine.Run
import Reckon.Proofs.Colours
import Reckon.Proofs.Trace

namespace Reckon

namespace CommandLine

theorem threshold_admits (verbosity : Nat) (severity : Severity) :
    (threshold verbosity).admits severity = decide (severity.detail ≤ verbosity) := by
  match verbosity with
  | 0 => rfl
  | 1 => rfl
  | 2 => rfl
  | more + 3 =>
    have least : severity.detail ≤ 3 := severity.detail_le
    have admitted : severity.detail ≤ more + 3 := Nat.le_add_left_of_le least
    exact (decide_eq_true least).trans (decide_eq_true admitted).symm

/-- The entries that a verbosity shows. -/
def shownAt (verbosity : Nat) (log : List LogEntry) : List LogEntry :=
  log.filter fun entry => (threshold verbosity).admits entry.severity

def block (stamp : String) (log : List LogEntry) : String :=
  String.join (log.map (·.line stamp))

private theorem logLines_eq (verbosity : Nat) (stamp : String) (log : List LogEntry) :
    logLines verbosity stamp log = block stamp (shownAt verbosity log) := rfl

private theorem shownAt_append (verbosity : Nat) (log more : List LogEntry) :
    shownAt verbosity (log ++ more) = shownAt verbosity log ++ shownAt verbosity more :=
  List.filter_append _ _

private theorem shownAt_severity {log : List LogEntry} {severity : Severity}
    (same : ∀ entry ∈ log, entry.severity = severity) (verbosity : Nat) :
    shownAt verbosity log = if severity.detail ≤ verbosity then log else [] := by
  split <;> rename_i admitted
  · refine List.filter_eq_self.mpr fun entry member => ?_
    rw [same entry member, threshold_admits, decide_eq_true admitted]
  · refine List.filter_eq_nil_iff.mpr fun entry member => ?_
    rw [same entry member, threshold_admits, decide_eq_false admitted]
    exact Bool.false_ne_true

private theorem shownAt_shownAt {lower higher : Nat} (less : lower ≤ higher) (log : List LogEntry) :
    shownAt lower (shownAt higher log) = shownAt lower log := by
  rw [shownAt, shownAt, List.filter_filter]
  refine List.filter_congr fun entry _ => ?_
  rw [threshold_admits, threshold_admits, ← Bool.decide_and]
  exact decide_eq_decide.mpr ⟨And.left, fun admitted => ⟨admitted, admitted.trans less⟩⟩

/-- All that a run has to tell: where its input comes from, what was consumed of it, and how
the evaluation ended. Where the first read fails, or there is nothing to read from, no end is
told. -/
structure Chronicle where
  channel : Channel
  consumed : List Char := []
  ending : Option (Except EvaluationError Value) := none

namespace Chronicle

def consumption (chronicle : Chronicle) : List LogEntry :=
  (Event.spelling chronicle.consumed).map Event.entry

def conclusion (chronicle : Chronicle) : List LogEntry :=
  chronicle.ending.toList.map fun result => (Event.ofResult result).entry

/-- The entries that are told at a verbosity. -/
def told (chronicle : Chronicle) (verbosity : Nat) : List LogEntry :=
  match verbosity with
  | 0 => []
  | 1 => [chronicle.channel.entry]
  | 2 => [chronicle.channel.entry] ++ chronicle.conclusion
  | _ => [chronicle.channel.entry] ++ chronicle.consumption ++ chronicle.conclusion

private theorem mem_told {chronicle : Chronicle} {entry : LogEntry}
    (member : entry ∈ chronicle.told 3) :
    entry = chronicle.channel.entry ∨ entry ∈ chronicle.consumption ∨
      entry ∈ chronicle.conclusion := by
  rcases List.mem_append.mp member with early | final
  · rcases List.mem_append.mp early with announced | consumed
    · exact .inl (List.mem_singleton.mp announced)
    · exact .inr (.inl consumed)
  · exact .inr (.inr final)

/-- What is told at a verbosity is what it shows of all there is to tell. -/
theorem shownAt_told (chronicle : Chronicle) (verbosity : Nat) :
    shownAt verbosity (chronicle.told 3) = chronicle.told verbosity := by
  have announced : ∀ entry ∈ [chronicle.channel.entry], entry.severity = .info := by
    intro entry member
    rw [List.mem_singleton.mp member]
    rfl
  have consumed : ∀ entry ∈ chronicle.consumption, entry.severity = .trace := by
    intro entry member
    obtain ⟨event, spelled, rfl⟩ := List.mem_map.mp member
    exact Event.severity_spelling spelled
  have ended : ∀ entry ∈ chronicle.conclusion, entry.severity = .debug := by
    intro entry member
    obtain ⟨result, _, rfl⟩ := List.mem_map.mp member
    exact Event.severity_ofResult result
  have all : chronicle.told 3 =
      [chronicle.channel.entry] ++ chronicle.consumption ++ chronicle.conclusion := rfl
  rw [all, shownAt_append, shownAt_append, shownAt_severity announced,
    shownAt_severity consumed, shownAt_severity ended]
  match verbosity with
  | 0 => rfl
  | 1 => rfl
  | 2 => rfl
  | more + 3 => simp [Severity.detail, told]

theorem told_lower (chronicle : Chronicle) {lower higher : Nat} (less : lower ≤ higher) :
    chronicle.told lower = shownAt lower (chronicle.told higher) := by
  rw [← chronicle.shownAt_told higher, shownAt_shownAt less, shownAt_told]

/-- Neither the path nor the words of the system have a line feed. -/
structure OneLine (chronicle : Chronicle) : Prop where
  path : ∀ path, chronicle.channel = .file path → '\n' ∉ path.toList
  failure : ∀ failure, chronicle.ending = some (.error (.unreadable failure)) →
    '\n' ∉ failure.message.toList

namespace OneLine

variable {chronicle : Chronicle} (oneLine : chronicle.OneLine)
include oneLine

private theorem channel : chronicle.channel.entry.OneLine := by
  unfold Channel.entry
  cases source : chronicle.channel with
  | argument expression =>
    have quoted := Quotation.oneLine_ofText "argument"
    exact .ofMessage (by simp) (by simp [toString_words, quoted])
  | standardInput =>
    have quoted := Quotation.oneLine_ofText "stdin"
    exact .ofMessage (by simp) (by simp [toString_words, quoted])
  | file path =>
    have words := oneLine.path path source
    exact .ofMessage (by simp) (by simp [toString_words, words])

theorem told {verbosity : Nat} {entry : LogEntry} (member : entry ∈ chronicle.told verbosity) :
    entry.OneLine := by
  rw [← shownAt_told] at member
  rcases mem_told (List.mem_of_mem_filter member) with rfl | consumed | ended
  · exact oneLine.channel
  · obtain ⟨event, spelled, rfl⟩ := List.mem_map.mp consumed
    refine event.oneLine_entry fun failure same => ?_
    rw [same] at spelled
    cases Event.severity_spelling spelled
  · obtain ⟨result, told, rfl⟩ := List.mem_map.mp ended
    refine Event.oneLine_entry _ fun failure same => oneLine.failure failure ?_
    rw [Option.mem_toList.mp told]
    cases result <;> cases same
    rfl

end OneLine

variable {σ : Type} [CharStream σ]

def ofSource (channel : Channel) (source : σ) : Chronicle :=
  match CharStream.next source with
  | .ok _ _ => ⟨channel, (evaluate source).consumed, some (evaluate source).result⟩
  | .error _ _ => ⟨channel, [], none⟩

private theorem told_ofSource (channel : Channel) (source : σ) :
    (ofSource channel source).told 3 = channel.entry :: (evaluate source).log.map Event.entry := by
  unfold ofSource
  cases read : CharStream.next source with
  | ok lookahead rest =>
    rw [(evaluate_spelled read).1.log, List.map_append]
    rfl
  | error failure rest =>
    rw [evaluate, Scanner.ofSource, read]
    rfl

end Chronicle

namespace Channel

/-- What a run has to tell of the input on its channel. -/
def chronicle (world : World) (channel : Channel) : Chronicle :=
  match channel with
  | argument expression => .ofSource channel expression.toList
  | file path =>
    match world.openFile path with
    | .ok bytes => .ofSource channel ({ bytes := bytes } : Utf8Stream)
    | .error _ => ⟨channel, [], none⟩
  | standardInput => .ofSource channel ({ bytes := world.standardInput } : Utf8Stream)

private theorem log_attempt (channel : Channel) (world : World) :
    (channel.attempt world).log = (channel.chronicle world).told 3 := by
  cases channel with
  | argument expression => exact (Chronicle.told_ofSource _ _).symm
  | standardInput => exact (Chronicle.told_ofSource _ _).symm
  | file path =>
    rw [attempt, chronicle]
    cases world.openFile path with
    | ok bytes => exact (Chronicle.told_ofSource _ _).symm
    | error error => rfl

end Channel

/-- What a run shows of its log is what there is to tell at its verbosity. -/
theorem logLines_attempt (channel : Channel) (world : World) (verbosity : Nat) (stamp : String) :
    logLines verbosity stamp (channel.attempt world).log =
      block stamp ((channel.chronicle world).told verbosity) := by
  rw [logLines_eq, channel.log_attempt, Chronicle.shownAt_told]

private theorem Attempt.complaint_ne (attempt : Attempt) (colours : Bool)
    (error : EvaluationError) : attempt.complaint colours error ≠ "" := by
  unfold complaint
  cases error <;> simp [toString_words]

/-- Whatever a request asks to be shown, it comes to one status, one output and one report. -/
theorem Request.run_told (command : Command) (channel : Channel) (plain : Bool) (world : World) :
    ∃ status output report, (report = "" ↔ status = 0) ∧ ∀ verbosity stamp,
      run ⟨command, channel, verbosity, plain⟩ { world with stamp } = ⟨status, output,
        block stamp ((channel.chronicle world).told verbosity) ++ report⟩ := by
  -- An attempt looks neither at the verbosity nor at the stamp.
  have shown (verbosity : Nat) (stamp : String) :
      logLines verbosity stamp (channel.attempt { world with stamp }).log =
        block stamp ((channel.chronicle world).told verbosity) :=
    logLines_attempt channel { world with stamp } verbosity stamp
  cases result : (channel.attempt world).result with
  | ok value =>
    refine ⟨0, command.answer value, "", by simp, fun verbosity stamp => ?_⟩
    have same : (channel.attempt { world with stamp }).result = .ok value := result
    rw [run]
    dsimp only
    rw [same, shown, String.append_empty]
  | error error =>
    refine ⟨1, "", (channel.attempt world).complaint (!plain && world.terminal) error, ?_, ?_⟩
    · simp [Attempt.complaint_ne]
    intro verbosity stamp
    have same : (channel.attempt { world with stamp }).result = .error error := result
    rw [run]
    dsimp only
    rw [same, shown]
    rfl

/-- What two runs come to that are asked for the same and show less or more of the log. A line
of the log is one line, unless the path or the system's words break it. -/
structure Undisturbed (chronicle : Chronicle) (lower higher : Nat) (stamp later : String)
    (quiet verbose : Outcome) : Prop where
  status : quiet.status = verbose.status
  output : quiet.output = verbose.output
  errors : ∃ report, (report = "" ↔ verbose.status = 0) ∧
    quiet.errors = block stamp (chronicle.told lower) ++ report ∧
    verbose.errors = block later (chronicle.told higher) ++ report
  log : chronicle.told lower = shownAt lower (chronicle.told higher)
  lines : chronicle.OneLine → ∀ entry ∈ chronicle.told higher, ∀ time : String,
    '\n' ∉ time.toList → IsLine (entry.line time)

/-- Verbosity disturbs nothing. Two runs that differ in how much of the log they show, and in
the stamps, come to the same status and output, and write the same report behind the log. The
quieter one shows the entries of the other that it admits, in their order. -/
theorem run_undisturbed (arguments others : List String) (world : World) (stamp later : String)
    (command : Command) (channel : Channel) (plain : Bool) (lower higher : Nat)
    (asks : invocation arguments = .request ⟨command, channel, lower, plain⟩)
    (asksMore : invocation others = .request ⟨command, channel, higher, plain⟩)
    (less : lower ≤ higher) :
    Undisturbed (channel.chronicle world) lower higher stamp later
      (run arguments { world with stamp }) (run others { world with stamp := later }) := by
  obtain ⟨status, output, report, reported, told⟩ :=
    Request.run_told command channel plain world
  rw [run, run, asks, asksMore]
  dsimp only
  rw [told, told]
  exact
    { status := rfl
      output := rfl
      errors := ⟨report, reported, rfl, rfl⟩
      log := Chronicle.told_lower _ less
      lines := fun oneLine _ member _ => (oneLine.told member).isLine }

/-- The standard input breaks inside a group. -/
theorem run_undisturbed_brokenInput :
    let error := ReadError.mk .brokenPipe "broken pipe"
    let world : World :=
      { standardInput := .ofSupplies [.bytes [0x28, 0x31], .failure error]
        openFile := fun _ => .error .notFound, terminal := true, stamp := "" }
    let quiet := run ["-v", "check"] { world with stamp := "4ms" }
    let verbose := run ["check", "-vvv"] { world with stamp := "7ms" }
    invocation ["-v", "check"] = .request ⟨.check, .standardInput, 1, false⟩ ∧
      invocation ["check", "-vvv"] = .request ⟨.check, .standardInput, 3, false⟩ ∧
      Undisturbed (Channel.standardInput.chronicle world) 1 3 "4ms" "7ms" quiet verbose ∧
      quiet = ⟨1, "", printed ["4ms  INFO contas: evaluating expression source=\"stdin\"",
        "error: could not read <stdin>: broken pipe"]⟩ ∧
      verbose = ⟨1, "", printed ["7ms  INFO contas: evaluating expression source=\"stdin\"",
        "7ms TRACE contas_eval::cursor: consume ch='(' column=1",
        "7ms TRACE contas_eval::cursor: consume ch='1' column=2",
        "7ms DEBUG contas_eval: evaluation failed error=failed to read input: broken pipe",
        "error: could not read <stdin>: broken pipe"]⟩ := by
  intro error world quiet verbose
  have same := run_undisturbed ["-v", "check"] ["check", "-vvv"] world "4ms" "7ms" .check
    .standardInput false 1 3 rfl rfl (by decide)
  have result : (evaluateBytes world.standardInput).result = .error (.unreadable error) := by
    dsimp only [world, error]
    cbv
  have log : (evaluateBytes world.standardInput).log =
      [.consumed '(' 1, .consumed '1' 2, .failed (.unreadable error)] := by
    dsimp only [world, error]
    cbv
  have shown (verbosity : Nat) (stamp : String) :
      Request.run ⟨.check, .standardInput, verbosity, false⟩ { world with stamp } =
        ⟨1, "", logLines verbosity stamp (Channel.standardInput.entry :: [Event.consumed '(' 1,
            .consumed '1' 2, .failed (.unreadable error)].map Event.entry) ++
          "error: could not read <stdin>: broken pipe\n"⟩ := by
    rw [Request.run, Channel.attempt, Channel.attemptBytes]
    dsimp only
    rw [result, log]
    rfl
  refine ⟨rfl, rfl, same, (shown 1 "4ms").trans ?_, (shown 3 "7ms").trans ?_⟩
  · exact congrArg (Outcome.mk 1 "") (by decide +kernel)
  · exact congrArg (Outcome.mk 1 "") (by decide +kernel)

end CommandLine

end Reckon
