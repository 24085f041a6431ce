import Reckon.CommandLine.Run
import Reckon.Proofs.Answers
import Reckon.Proofs.Report
import Reckon.Proofs.Verbosity

namespace Reckon

/-- The line as far as it has to be read for the rejection. -/
def Rejection.cut (rejection : Rejection) (line : List Char) : List Char :=
  line.take rejection.position.column

/-- The line is cut right behind the character that was found, and stays whole if its end
was found. -/
structure CutBehind (found : Option Char) (line cut : List Char) : Prop where
  inLine : ∀ character, found = some character → character ≠ '\n' →
    ∃ before after, line = before ++ character :: after ∧ cut = before ++ [character]
  ended : found = none ∨ found = some '\n' → cut = line

private theorem firstLine_ofList (text : List Char) :
    firstLine (.ofList text) = text.takeWhile (· != '\n') := by
  rw [firstLine, String.toList_ofList]

private theorem line_feed_behind (consumed others : List Char)
    (inLine : ∀ character ∈ consumed, character ≠ '\n') :
    (consumed ++ '\n' :: others).takeWhile (· != '\n') = consumed := by
  rw [List.takeWhile_append_of_pos (by simpa using inLine),
    List.takeWhile_cons_of_neg (by decide), List.append_nil]

/-- The line of what was read, which is what was consumed and the character ahead, is the line
of the whole text, cut behind that character. -/
private theorem line_read {consumed more : List Char} {found : Option Char}
    (inLine : ∀ character ∈ consumed, character ≠ '\n') (ended : found = none → more = []) :
    let line := (consumed ++ found.toList ++ more).takeWhile (· != '\n')
    (consumed ++ found.toList).takeWhile (· != '\n') = line.take (consumed.length + 1) ∧
      CutBehind found line (line.take (consumed.length + 1)) := by
  have whole : consumed.take (consumed.length + 1) = consumed :=
    List.take_of_length_le (Nat.le_succ _)
  have alone : consumed.takeWhile (· != '\n') = consumed :=
    List.takeWhile_eq_self_iff.mpr (by simpa using inLine)
  cases found with
  | none =>
    rw [ended rfl, Option.toList_none, List.append_nil, List.append_nil, alone]
    dsimp only
    rw [whole]
    exact ⟨rfl, nofun, fun _ => rfl⟩
  | some character =>
    rw [Option.toList_some, List.append_assoc, List.singleton_append]
    by_cases feed : character = '\n'
    · subst feed
      rw [line_feed_behind consumed more inLine, line_feed_behind consumed [] inLine]
      dsimp only
      rw [whole]
      refine ⟨rfl, ?_, fun _ => rfl⟩
      rintro _ ⟨⟩ noFeed
      exact absurd rfl noFeed
    · have further (others : List Char) : (consumed ++ character :: others).takeWhile (· != '\n') =
          consumed ++ character :: others.takeWhile (· != '\n') := by
        rw [List.takeWhile_append_of_pos (by simpa using inLine),
          List.takeWhile_cons_of_pos (by simpa using feed)]
      rw [further more, further [], List.takeWhile_nil]
      have front (others : List Char) : (consumed ++ character :: others).take
          (consumed.length + 1) = consumed ++ [character] := by
        simp [List.take_append]
      dsimp only
      rw [front]
      refine ⟨rfl, ?_, ?_⟩
      · rintro _ ⟨⟩ _
        exact ⟨consumed, _, rfl, rfl⟩
      · rintro (⟨⟨⟩⟩ | ⟨⟨⟩⟩)
        exact absurd rfl feed

/-- Of a rejected text a reader hands out the line as far as it has to be read. -/
theorem evaluateBytes_rejected {reader : ByteReader} {text : String} {rejection : Rejection}
    (delivers : reader.Delivers (Utf8.encode text.toList))
    (rejected : (evaluateText text).result = .error (.rejected rejection)) :
    firstLine (evaluateBytes reader).source.text = rejection.cut (firstLine text) ∧
      CutBehind rejection.found (firstLine text) (rejection.cut (firstLine text)) := by
  obtain ⟨lookahead, stops, known, answered, _⟩ := evaluateBytes_answered delivers
  obtain ⟨last, _, judged⟩ := evaluate_judged ({ bytes := reader } : Utf8Stream)
  change Judged (evaluateBytes reader).consumed last (evaluateBytes reader).result at judged
  have shown := (ReadAhead.ofAnswered stops known answered).text
  have spelled := answered.characters
  have exhausted := answered.ended
  rw [Utf8.characters_encode, reduceOption_answers] at spelled
  rw [evaluateBytes_encode delivers, rejected] at judged stops
  generalize (evaluateBytes reader).consumed = consumed at *
  obtain rfl : rejection.found = lookahead := stops
  have column : rejection.position.column = consumed.length + 1 := by
    cases judged with
    | settled settles => rw [settles.position rejection rfl]
  have ended : rejection.found = none →
      Utf8.characters (evaluateBytes reader).source.bytes.unread = [] := by
    intro none
    rw [exhausted (by simp [none]), Utf8.characters_nil]
  rw [Rejection.cut, column, shown, firstLine_ofList, firstLine, spelled]
  exact line_read (fun character member => (known character member).ne_lineFeed) ended

/-- A line of a report, and the line of another report that stands in its place when the
input has another name and its first line is cut. -/
inductive Counterpart (name other : String) (line cut : List Char) : String → String → Prop where
  | same (words : String) : Counterpart name other line cut words words
  | arrow (column : Nat) : Counterpart name other line cut
      (" --> " ++ name ++ ":1:" ++ toString column) (" --> " ++ other ++ ":1:" ++ toString column)
  | quoted : Counterpart name other line cut
      (" 1 | " ++ String.ofList line) (" 1 | " ++ String.ofList cut)

namespace Extract

variable (name : String) (line : List Char) (column : Nat) (mark : Char) (message : String)

private theorem arrow_first : arrow ⟨name, 1, line, column, 1, mark, message⟩ =
    " --> " ++ name ++ ":1:" ++ toString column := by
  have number : ":" ++ (toString 1 ++ ":") = ":1:" := rfl
  simp only [arrow, String.append_assoc, ← number]

private theorem quoted_first : quoted ⟨name, 1, line, column, 1, mark, message⟩ =
    " 1 | " ++ String.ofList line := by
  have number : " " ++ toString 1 ++ " | " = " 1 | " := rfl
  rw [quoted, gutter, number]

private theorem lines_counterparts (other : String) (cut : List Char) :
    List.Forall₂ (Counterpart name other line cut)
      (lines ⟨name, 1, line, column, 1, mark, message⟩)
      (lines ⟨other, 1, cut, column, 1, mark, message⟩) := by
  rw [lines, lines, arrow_first, arrow_first, quoted_first, quoted_first]
  exact .cons (.arrow column) (.cons (.same _) (.cons .quoted (.cons (.same _) .nil)))

end Extract

private theorem Rejection.reportLines_counterparts (rejection : Rejection) (name other : String)
    (line cut : List Char) :
    List.Forall₂ (Counterpart name other line cut) (rejection.reportLines name line)
      (rejection.reportLines other cut) := by
  have kept (lines : List String) : List.Forall₂ (Counterpart name other line cut) lines lines :=
    List.forall₂_same.mpr fun words _ => .same words
  refine .cons (.same _) ?_
  refine List.rel_append (List.rel_append (List.rel_append ?_ ?_) (kept _)) (kept _)
  · exact Extract.lines_counterparts ..
  · cases rejection.cause with
    | unclosedGroup opened => exact Extract.lines_counterparts ..
    | _ => exact .nil

namespace CommandLine

def Command.name : Command → String
  | eval => "eval"
  | check => "check"

namespace Channel

/-- The arguments that have a command take its expression from the channel. -/
def arguments (channel : Channel) (command : Command) (plain : Bool) : List String :=
  let source := match channel with
    | argument expression => ["--", expression]
    | file path => ["--file", path]
    | standardInput => []
  (if plain then ["--no-color"] else []) ++ command.name :: source

/-- The name under which reports quote what came on the channel. -/
def name : Channel → String
  | argument _ => "<expr>"
  | file path => path
  | standardInput => "<stdin>"

/-- What a report shows of the first line. Only of an argument all is known. -/
def quotes (rejection : Rejection) (line : List Char) : Channel → List Char
  | argument _ => line
  | _ => rejection.cut line

/-- The text is what comes on the channel. A path that is no option can be named. -/
def Holds (world : World) (text : String) : Channel → Prop
  | argument expression => expression = text
  | file path => path ≠ "" ∧ isOption path = false ∧ ∃ bytes, world.openFile path = .ok bytes ∧
      bytes.Delivers (Utf8.encode text.toList)
  | standardInput => world.standardInput.Delivers (Utf8.encode text.toList)

private theorem invocation_arguments {world : World} {text : String} {channel : Channel}
    (holds : channel.Holds world text) (command : Command) (plain : Bool) :
    invocation (channel.arguments command plain) = .request ⟨command, channel, 0, plain⟩ := by
  cases channel with
  | argument expression => cases command <;> cases plain <;> rfl
  | standardInput => cases command <;> cases plain <;> rfl
  | file path =>
    obtain ⟨named, noOption, _⟩ := holds
    have completed : Selection.complete {} ["--file", path] = .ok ⟨{}, none, some path⟩ := by
      change (if isOption path then throw .misuse
        else (Selection.withPath {} path >>= fun selection => selection.complete [])) = _
      rw [noOption]
      have present : path.isEmpty = false := by simpa using named
      simp [Selection.withPath, present]
      rfl
    have selected (flags : Flags) : invocationAfter flags [command.name, "--file", path] =
        Selection.invocation ⟨{}, none, some path⟩ command flags := by
      rw [invocationAfter, completed]
      cases command <;> rfl
    cases plain with
    | false => exact selected {}
    | true => exact selected { plain := true }

/-- The attempt on a text. Of a rejected one it shows what was read. -/
structure Attempts (channel : Channel) (text : String) (attempt : Attempt) : Prop where
  result : attempt.result = (evaluateText text).result
  named : attempt.document.name = channel.name
  shown : ∀ rejection, (evaluateText text).result = .error (.rejected rejection) →
    firstLine attempt.document.text = channel.quotes rejection (firstLine text)

private theorem attempt_holds {world : World} {text : String} {channel : Channel}
    (holds : channel.Holds world text) : channel.Attempts text (channel.attempt world) := by
  cases channel with
  | argument expression =>
    obtain rfl : expression = text := holds
    exact ⟨rfl, rfl, fun _ _ => rfl⟩
  | file path =>
    obtain ⟨_, _, bytes, opened, delivers⟩ := holds
    rw [attempt, opened]
    exact ⟨evaluateBytes_encode delivers, rfl, fun _ rejected =>
      (evaluateBytes_rejected delivers rejected).1⟩
  | standardInput =>
    have delivers : world.standardInput.Delivers (Utf8.encode text.toList) := holds
    exact ⟨evaluateBytes_encode delivers, rfl, fun _ rejected =>
      (evaluateBytes_rejected delivers rejected).1⟩

end Channel

/-- What is reported of a rejection, and printed with one more line feed. -/
def complaint (channel : Channel) (rejection : Rejection) (line : List Char) : String :=
  printed (rejection.reportLines channel.name (channel.quotes rejection line)) ++ "\n"

private theorem report_eq {text : String} {rejection : Rejection} {document : Document}
    (rejected : (evaluateText text).result = .error (.rejected rejection)) :
    rejection.report document false =
      printed (rejection.reportLines document.name (firstLine document.text)) := by
  obtain ⟨_, _, behind⟩ := evaluateText_behind rejected
  refine Rejection.render_eq rfl (by rw [behind.position]) ?_
  intro opened cause
  obtain ⟨_, _, _, _, rfl, _⟩ := behind.parenthesis cause
  rfl

/-- What a run comes to when the text is on the channel. -/
structure Ruling (text : String) (command : Command) (channel : Channel) (outcome : Outcome) :
    Prop where
  accepted : ∀ value, (evaluateText text).result = .ok value →
    outcome = match command with
      | .eval => ⟨0, toString value ++ "\n", ""⟩
      | .check => ⟨0, "ok\n", ""⟩
  rejected : ∀ rejection, (evaluateText text).result = .error (.rejected rejection) →
    outcome = ⟨1, "", complaint channel rejection (firstLine text)⟩

theorem run_ruling {world : World} {text : String} {channel : Channel} {plain : Bool}
    (holds : channel.Holds world text) (colourless : plain = true ∨ world.terminal = false)
    (command : Command) :
    Ruling text command channel (run (channel.arguments command plain) world) := by
  obtain ⟨result, named, shown⟩ := channel.attempt_holds holds
  have noColours : (!plain && world.terminal) = false := by
    rcases colourless with rfl | colourless
    · rfl
    · rw [colourless, Bool.and_false]
  rw [run, Channel.invocation_arguments holds]
  dsimp only
  rw [Request.run]
  dsimp only
  have quiet : logLines 0 world.stamp (channel.attempt world).log = "" :=
    logLines_attempt channel world 0 world.stamp
  rw [quiet, result, noColours]
  constructor
  · intro value accepted
    rw [accepted]
    cases command <;> rfl
  · intro rejection rejected
    rw [rejected]
    dsimp only [Attempt.complaint]
    rw [report_eq rejected, named, shown rejection rejected, String.empty_append]
    rfl

/-- A check comes to the same as the evaluation, except that it prints no value. -/
structure Checks (check eval : Outcome) : Prop where
  status : check.status = eval.status
  errors : check.errors = eval.errors
  output : check.output = if eval.status = 0 then "ok\n" else ""

private theorem Ruling.checks {text : String} {channel : Channel} {check eval : Outcome}
    (checked : Ruling text .check channel check) (evaluated : Ruling text .eval channel eval) :
    Checks check eval := by
  rcases evaluateText_decided text with ⟨value, accepted⟩ | ⟨rejection, rejected⟩
  · rw [checked.accepted value accepted, evaluated.accepted value accepted]
    exact ⟨rfl, rfl, rfl⟩
  · rw [checked.rejected rejection rejected, evaluated.rejected rejection rejected]
    exact ⟨rfl, rfl, rfl⟩

/-- The channels agree on the text, and so do the commands. -/
structure SameVerdict (text : String) (channels : List Channel)
    (outcome : Command → Channel → Outcome) : Prop where
  decided : (∃ value, (evaluateText text).result = .ok value) ∨
    ∃ rejection, (evaluateText text).result = .error (.rejected rejection)
  rulings : ∀ command, ∀ channel ∈ channels, Ruling text command channel (outcome command channel)
  checks : ∀ channel ∈ channels, Checks (outcome .check channel) (outcome .eval channel)
  lines : ∀ rejection, (evaluateText text).result = .error (.rejected rejection) →
    ∀ channel ∈ channels, List.Forall₂
      (Counterpart "<expr>" channel.name (firstLine text)
        (channel.quotes rejection (firstLine text)))
      (rejection.reportLines "<expr>" (firstLine text))
      (rejection.reportLines channel.name (channel.quotes rejection (firstLine text)))
  cut : ∀ rejection, (evaluateText text).result = .error (.rejected rejection) →
    CutBehind rejection.found (firstLine text) (rejection.cut (firstLine text))

/-- As an argument, in a file or on standard input, a text is judged the same, and it is the
same whether its value is asked for or only whether it has one. What a report says of a
rejected text differs in the name of the input, and in the end of the line that it quotes. -/
theorem run_sameVerdict (text path : String) (world : World) (plain : Bool)
    (file : Channel.Holds world text (.file path))
    (input : Channel.Holds world text .standardInput)
    (colourless : plain = true ∨ world.terminal = false) :
    SameVerdict text [.argument text, .file path, .standardInput] fun command channel =>
      run (channel.arguments command plain) world := by
  have holds : ∀ channel ∈ [Channel.argument text, .file path, .standardInput],
      channel.Holds world text := by
    intro channel member
    simp only [List.mem_cons, List.not_mem_nil, or_false] at member
    rcases member with rfl | rfl | rfl
    · rfl
    · exact file
    · exact input
  have rulings (command : Command) (channel : Channel) (member) :=
    run_ruling (holds channel member) colourless command
  have delivers : world.standardInput.Delivers (Utf8.encode text.toList) := input
  exact
    { decided := evaluateText_decided text
      rulings := rulings
      checks := fun channel member =>
        (rulings .check channel member).checks (rulings .eval channel member)
      lines := fun rejection _ channel _ => rejection.reportLines_counterparts ..
      cut := fun rejection rejected => (evaluateBytes_rejected delivers rejected).2 }

/-- A power is accepted on every channel. Of a text that is rejected, for a character that is no
ASCII, the argument is quoted in full and the file is not. -/
theorem run_sameVerdict_bothWays :
    let world (bytes : List UInt8) : World :=
      { standardInput := .ofBytes bytes 4, openFile := fun _ => .ok (.ofBytes bytes 8192)
        terminal := true, stamp := "" }
    let power := world [0x32, 0x2A, 0x2A, 0x31, 0x30]
    let group := world [0x28, 0x31, 0x2B, 0x32, 0xC3, 0xA9, 0x29]
    Channel.Holds power "2**10" (.file "f") ∧ Channel.Holds power "2**10" .standardInput ∧
      run ["--no-color", "eval", "--", "2**10"] power = ⟨0, "1024\n", ""⟩ ∧
      run ["--no-color", "eval"] power = ⟨0, "1024\n", ""⟩ ∧
      run ["--no-color", "check", "--file", "f"] power = ⟨0, "ok\n", ""⟩ ∧
    Channel.Holds group "(1+2é)" (.file "f") ∧ Channel.Holds group "(1+2é)" .standardInput ∧
      run ["--no-color", "eval", "--", "(1+2é)"] group = ⟨1, "",
        printed ["error[EP003]: expected ')' to close parenthesis",
          " --> <expr>:1:5", "   |", " 1 | (1+2é)", "   |     ^ found 'é'",
          " --> <expr>:1:1", "   |", " 1 | (1+2é)", "   | - parenthesis opened here"] ++ "\n"⟩ ∧
      run ["--no-color", "check", "--file", "f"] group = ⟨1, "",
        printed ["error[EP003]: expected ')' to close parenthesis",
          " --> f:1:5", "   |", " 1 | (1+2é", "   |     ^ found 'é'",
          " --> f:1:1", "   |", " 1 | (1+2é", "   | - parenthesis opened here"] ++ "\n"⟩ := by
  intro world power group
  have holds (text : String) (bytes : List UInt8) (encoded : Utf8.encode text.toList = bytes) :
      Channel.Holds (world bytes) text (.file "f") ∧
        Channel.Holds (world bytes) text .standardInput := by
    subst encoded
    exact ⟨⟨by decide, by decide, _, rfl, ByteReader.ofBytes_delivers (by decide) _⟩,
      ByteReader.ofBytes_delivers (by decide) _⟩
  obtain ⟨powerFile, powerInput⟩ := holds "2**10" [0x32, 0x2A, 0x2A, 0x31, 0x30] (by cbv)
  obtain ⟨groupFile, groupInput⟩ :=
    holds "(1+2é)" [0x28, 0x31, 0x2B, 0x32, 0xC3, 0xA9, 0x29] (by cbv)
  have accepted : (evaluateText "2**10").result = .ok 1024 := by cbv
  have rejected : (evaluateText "(1+2é)").result =
      .error (.rejected ⟨.unclosedGroup ⟨1, 1, 0⟩, some 'é', ⟨1, 5, 4⟩⟩) := by cbv
  have line : firstLine "(1+2é)" = "(1+2é)".toList := by cbv
  have same := run_sameVerdict "2**10" "f" power true powerFile powerInput (.inl rfl)
  have same' := run_sameVerdict "(1+2é)" "f" group true groupFile groupInput (.inl rfl)
  have argument := (same'.rulings .eval (.argument "(1+2é)") (by simp)).rejected _ rejected
  have fromFile := (same'.rulings .check (.file "f") (by simp)).rejected _ rejected
  rw [line, complaint] at argument fromFile
  refine ⟨powerFile, powerInput, ?_, ?_, ?_, groupFile, groupInput, argument.trans ?_,
    fromFile.trans ?_⟩
  · exact (same.rulings .eval (.argument "2**10") (by simp)).accepted _ accepted
  · exact (same.rulings .eval .standardInput (by simp)).accepted _ accepted
  · exact (same.rulings .check (.file "f") (by simp)).accepted _ accepted
  · exact congrArg (fun lines => Outcome.mk 1 "" (printed lines ++ "\n")) (by rfl)
  · exact congrArg (fun lines => Outcome.mk 1 "" (printed lines ++ "\n")) (by rfl)

end CommandLine

end Reckon
