import Reckon.Expression.Grammar

/-! The rules of the grammar as data. What a rule does is a script of single operations
and of calls to other rules, and so whatever holds of each operation and is carried on by a
call holds of all rules, by one induction on the run of a script. -/

namespace Reckon

/-- A rule as other rules call it, with the total so far where it goes on with one. -/
inductive Call where
  | line
  | sum
  | signedTerms (total : Value)
  | term
  | exponent
  | operand
  | numeral
  | digits (total : Value)

namespace Call

/-- How many rules can call one another before a character is consumed. -/
def rank : Call → Nat
  | line => 4
  | sum => 3
  | term => 2
  | signedTerms _ | exponent | operand => 1
  | numeral | digits _ => 0

def rankLimit : Nat := 5

end Call

/-- What a rule does, one operation after the other. It goes on with what it sees of the
lookahead and its place, and with the values of the rules that it calls. Rules call only rules
of a lower rank, up to the first character that they consume. -/
inductive Script : (rank : Nat) → Type where
  | done (value : Value) : Script rank
  | reject (cause : Cause) : Script rank
  | look (later : Option Char → Position → Script rank) : Script rank
  | consume (expected : Char) (later : Script Call.rankLimit) : Script rank
  | descend (later : Script rank) : Script rank
  | ascend (later : Script rank) : Script rank
  | call (rule : Call) (later : Value → Script rank)
      (lower : rule.rank < rank := by exact Nat.le_of_ble_eq_true rfl) : Script rank

def Script.closing (opened : Position) (value : Value) : Script rank :=
  .look fun ahead _ =>
    if ahead == some ')' then .consume ')' <| .ascend <| .done value
    else .reject (.unclosedGroup opened)

/-- The rules of the grammar, operation by operation. -/
def Call.script : (rule : Call) → Script rule.rank
  | line => .call sum fun value => .look fun ahead _ =>
    if ahead.all (· == '\n') then .done value else .reject .trailingInput
  | sum => .call term fun first => .call (signedTerms 0) fun others => .done (first + others)
  | signedTerms total => .look fun ahead _ =>
    match ahead.bind Sign.ofCharacter? with
    | none => .done total
    | some sign => .consume sign.character <| .call term fun value =>
        .call (signedTerms (sign.apply total value)) .done
  | term => .call operand fun base => .call exponent fun power => .done (base.power power)
  | exponent => .look fun ahead _ =>
    if ahead == some '*' then
      .consume '*' <| .look fun afterStar _ =>
        if afterStar == some '*' then
          .consume '*' <| .descend <| .call term fun value => .ascend <| .done value
        else .reject .loneStar
    else .done 1
  | operand => .look fun ahead opened =>
    if ahead == some '(' then
      .descend <| .consume '(' <| .call sum <| .closing opened
    else .call numeral .done
  | numeral => .look fun ahead _ =>
    match ahead with
    | none => .reject .expectedNumber
    | some character =>
      if character = '0' then .consume character <| .done 0
      else if character.isDigit then
        .consume character <| .call (digits (Value.ofDigit character)) .done
      else .reject .expectedNumber
  | digits total => .look fun ahead _ =>
    match ahead with
    | none => .done total
    | some character =>
      if character.isDigit then
        .consume character <| .call (digits (total.appendDigit character)) .done
      else .done total

variable {σ : Type} [CharStream σ]

namespace Call

/-- The reading of a rule, by the grammar itself. -/
def read : Call → (start : Scanner σ) → Reading start Value
  | line => Grammar.line
  | sum => Grammar.sum
  | signedTerms total => Grammar.signedTerms total
  | term => Grammar.term
  | exponent => Grammar.exponent
  | operand => Grammar.operand
  | numeral => Grammar.numeral
  | digits total => Grammar.digits total

def scan (rule : Call) : Scan σ Value := Reading.step rule.read

theorem unread_le (rule : Call) (scanner : Scanner σ) :
    (scannerAfter (rule.scan scanner)).unread ≤ scanner.unread :=
  (rule.read scanner).unread_le

end Call

namespace Script

def scan : Script rank → Scan σ Value
  | done value => return value
  | reject cause => Scanner.reject cause
  | look later => fun scanner => (later scanner.lookahead scanner.position).scan scanner
  | consume expected later => do
    Scanner.consume expected
    later.scan
  | descend later => do
    Scanner.descend
    later.scan
  | ascend later => fun scanner => later.scan scanner.ascend
  | call rule later _ => do
    let value ← rule.scan
    (later value).scan

variable {rank : Nat} {start : Scanner σ}

private theorem outcome_andThen (rule : Call) {later : Value → Script rank}
    {lower : rule.rank < rank}
    {next : Value → (rest : Scanner σ) → rest.unread ≤ start.unread → Reading rest Value}
    (same : ∀ value rest bound, (next value rest bound).outcome = (later value).scan rest) :
    ((rule.read start).andThen next).outcome = (call rule later lower).scan start := by
  change _ =
    EStateM.bind (fun _ => (rule.read start).outcome) (fun value => (later value).scan) start
  rcases rule.read start with ⟨⟨value, rest⟩ | ⟨error, rest⟩, bound⟩
  · exact same value rest bound
  · rfl

private theorem outcome_consuming {expected : Char} {later : Script Call.rankLimit}
    {next : (rest : Scanner σ) → rest.unread < start.unread → Reading rest Value}
    (same : ∀ rest fewer, (next rest fewer).outcome = later.scan rest) :
    (Reading.consuming start expected next).outcome =
      (consume expected later : Script rank).scan start := by
  change _ = EStateM.bind (Scanner.consume expected) (fun _ => later.scan) start
  unfold Reading.consuming EStateM.bind
  split <;> rename_i consumed <;> simp only [consumed]
  exact same _ _

private theorem outcome_descending {later : Script rank}
    {next : (inner : Scanner σ) → inner.unread = start.unread → Reading inner Value}
    (same : ∀ inner level, (next inner level).outcome = later.scan inner) :
    (Reading.descending start next).outcome = (descend later).scan start := by
  change _ = EStateM.bind Scanner.descend (fun _ => later.scan) start
  unfold Reading.descending EStateM.bind
  split <;> rename_i descended <;> simp only [descended]
  exact same _ _

section

variable {middle : Scanner σ} {expected : Char} {value : Value} {error : EvaluationError}

theorem scan_consume_ok {later : Script Call.rankLimit}
    (success : Scanner.consume expected start = .ok () middle) :
    (consume expected later : Script rank).scan start = later.scan middle :=
  Scan.bind_ok success _

theorem scan_consume_error {later : Script Call.rankLimit}
    (failure : Scanner.consume expected start = .error error middle) :
    (consume expected later : Script rank).scan start = .error error middle :=
  Scan.bind_error failure _

theorem scan_descend_ok {later : Script rank}
    (success : Scanner.descend start = .ok () middle) :
    (descend later).scan start = later.scan middle :=
  Scan.bind_ok success _

theorem scan_descend_error {later : Script rank}
    (failure : Scanner.descend start = .error error middle) :
    (descend later).scan start = .error error middle :=
  Scan.bind_error failure _

theorem scan_call_ok {rule : Call} {later : Value → Script rank} {lower : rule.rank < rank}
    (success : rule.scan start = .ok value middle) :
    (call rule later lower).scan start = (later value).scan middle :=
  Scan.bind_ok success _

theorem scan_call_error {rule : Call} {later : Value → Script rank} {lower : rule.rank < rank}
    (failure : rule.scan start = .error error middle) :
    (call rule later lower).scan start = .error error middle :=
  Scan.bind_error failure _

end

@[simp] theorem scan_ascend (later : Script rank) :
    (ascend later).scan start = later.scan start.ascend := rfl

@[simp] theorem scan_look (later : Option Char → Position → Script rank) :
    (look later).scan start = (later start.lookahead start.position).scan start := rfl

@[simp] theorem scan_call_done (rule : Call) (lower : rule.rank < rank) :
    (call rule done lower).scan = (rule.scan : Scan σ Value) :=
  bind_pure _

end Script

open Script in
/-- A rule does what its script says. -/
theorem Call.scan_script (rule : Call) : (rule.script.scan : Scan σ Value) = rule.scan := by
  funext start
  refine Eq.symm ?_
  cases rule with
  | line =>
    change (Grammar.line start).outcome = _
    refine outcome_andThen sum fun value rest _ => ?_
    change _ = (if rest.isAtEnd then done value else reject .trailingInput).scan rest
    split <;> rfl
  | sum =>
    change (Grammar.sum start).outcome = _
    rw [Grammar.sum]
    exact outcome_andThen term fun first afterFirst _ =>
      outcome_andThen (signedTerms 0) fun others rest _ => rfl
  | signedTerms total =>
    change (Grammar.signedTerms total start).outcome = (look _).scan start
    rw [Grammar.signedTerms, scan_look]
    cases start.lookahead.bind Sign.ofCharacter? with
    | none => rfl
    | some sign =>
      refine outcome_consuming fun afterSign _ => outcome_andThen term fun value _ _ => ?_
      rw [scan_call_done]
      rfl
  | term =>
    change (Grammar.term start).outcome = _
    rw [Grammar.term]
    exact outcome_andThen operand fun base afterBase _ =>
      outcome_andThen exponent fun power rest _ => rfl
  | exponent =>
    change (Grammar.exponent start).outcome = (look _).scan start
    rw [Grammar.exponent, scan_look, ← Scanner.isAt]
    split
    · refine outcome_consuming fun afterStar _ => ?_
      rw [scan_look, ← Scanner.isAt]
      split
      · exact outcome_consuming fun afterStars _ => outcome_descending fun inner _ =>
          outcome_andThen term fun value rest _ => rfl
      · rfl
    · rfl
  | operand =>
    change (Grammar.operand start).outcome = (look _).scan start
    rw [Grammar.operand, scan_look, ← Scanner.isAt]
    split
    · refine outcome_descending fun inner _ => outcome_consuming fun opened _ =>
        outcome_andThen sum fun value afterSum _ => ?_
      rw [closing, scan_look, ← Scanner.isAt]
      split
      · exact outcome_consuming fun rest _ => rfl
      · rfl
    · rw [scan_call_done]
      rfl
  | numeral =>
    change (Grammar.numeral start).outcome = (look _).scan start
    rw [Grammar.numeral, scan_look]
    cases start.lookahead with
    | none => rfl
    | some character =>
      dsimp only
      split
      · exact outcome_consuming fun rest _ => rfl
      · split
        · refine outcome_consuming fun rest _ => ?_
          rw [scan_call_done]
          rfl
        · rfl
  | digits total =>
    change (Grammar.digits total start).outcome = (look _).scan start
    rw [Grammar.digits, scan_look]
    cases start.lookahead with
    | none => rfl
    | some character =>
      dsimp only
      split
      · refine outcome_consuming fun rest _ => ?_
        rw [scan_call_done]
        rfl
      · rfl

namespace Script

/-- How a script runs from a scanner: each of its operations as it turns out, up to the one
that fails, and the runs of the rules that it calls. -/
inductive Runs :
    Script rank → Scanner σ → EStateM.Result EvaluationError (Scanner σ) Value → Prop where
  | done : Runs (.done value) scanner (.ok value scanner)
  | reject : Runs (.reject cause) scanner (.error (.rejected (scanner.rejection cause)) scanner)
  | look (rest : Runs (later scanner.lookahead scanner.position) scanner result) :
      Runs (.look later) scanner result
  | consumed (success : Scanner.consume expected scanner = .ok () middle)
      (rest : Runs later middle result) : Runs (.consume expected later) scanner result
  | refused (failure : Scanner.consume expected scanner = .error error after) :
      Runs (.consume expected later) scanner (.error error after)
  | descended (success : Scanner.descend scanner = .ok () middle)
      (rest : Runs later middle result) : Runs (.descend later) scanner result
  | limited (failure : Scanner.descend scanner = .error error after) :
      Runs (.descend later) scanner (.error error after)
  | ascended (rest : Runs later scanner.ascend result) : Runs (.ascend later) scanner result
  | called (first : Runs rule.script scanner (.ok value middle))
      (rest : Runs (later value) middle result) : Runs (.call rule later lower) scanner result
  | broken (failure : Runs rule.script scanner (.error error after)) :
      Runs (.call rule later lower) scanner (.error error after)

variable {scanner : Scanner σ} {result : EStateM.Result EvaluationError (Scanner σ) Value}
  {script : Script rank}

theorem Runs.scan_eq (runs : Runs script scanner result) : script.scan scanner = result := by
  induction runs with
  | done => rfl
  | reject => rfl
  | look _ ih => exact ih
  | consumed success _ ih => exact (scan_consume_ok success).trans ih
  | refused failure => exact scan_consume_error failure
  | descended success _ ih => exact (scan_descend_ok success).trans ih
  | limited failure => exact scan_descend_error failure
  | ascended _ ih => exact ih
  | called _ _ first rest =>
    rw [Call.scan_script] at first
    exact (scan_call_ok first).trans rest
  | broken _ ih =>
    rw [Call.scan_script] at ih
    exact scan_call_error ih

theorem Runs.scan_eq_call {rule : Call} (runs : Runs rule.script scanner result) :
    rule.scan scanner = result := by
  rw [← runs.scan_eq, Call.scan_script]

private theorem runs_of_calls (bound : Nat)
    (calls : ∀ (rule : Call) (start : Scanner σ),
      Call.rankLimit * start.unread + rule.rank < bound → rule.script.Runs start (rule.scan start))
    (script : Script rank) (scanner : Scanner σ)
    (within : Call.rankLimit * scanner.unread + rank ≤ bound) :
    script.Runs scanner (script.scan scanner) := by
  -- A consumption leaves less to read; up to the next one, a call lowers the rank.
  induction script generalizing scanner with
  | done value => exact .done
  | reject cause => exact .reject
  | look later ih => exact .look (ih _ _ scanner within)
  | consume expected later ih =>
    cases outcome : Scanner.consume expected scanner with
    | ok _ middle =>
      have fewer := Nat.mul_le_mul_left Call.rankLimit (Scanner.unread_lt_of_consume outcome)
      refine .consumed outcome ?_
      rw [scan_consume_ok outcome]
      exact ih middle (by rw [Nat.mul_succ] at fewer; omega)
    | error error after =>
      rw [scan_consume_error outcome]
      exact .refused outcome
  | descend later ih =>
    cases outcome : Scanner.descend scanner with
    | ok _ inner =>
      refine .descended outcome ?_
      rw [scan_descend_ok outcome]
      exact ih inner (by rwa [Scanner.unread_of_descend outcome])
    | error error after =>
      rw [scan_descend_error outcome]
      exact .limited outcome
  | ascend later ih => exact .ascended (ih scanner.ascend within)
  | call rule later lower ih =>
    have called := calls rule scanner (by omega)
    have bounded := rule.unread_le scanner
    cases outcome : rule.scan scanner with
    | ok value middle =>
      rw [outcome] at called bounded
      rw [scan_call_ok outcome]
      have fewer := Nat.mul_le_mul_left Call.rankLimit bounded
      exact .called called (ih value middle (by rw [scannerAfter] at fewer; omega))
    | error error after =>
      rw [outcome] at called
      rw [scan_call_error outcome]
      exact .broken called

end Script

/-- Every rule runs to an end, from any scanner. -/
theorem Call.runs (rule : Call) (scanner : Scanner σ) :
    rule.script.Runs scanner (rule.scan scanner) := by
  have whole := rule.script.runs_of_calls _ (fun other start _ => other.runs start) scanner
    (Nat.le_refl _)
  rwa [scan_script] at whole
termination_by rankLimit * scanner.unread + rule.rank

end Reckon
