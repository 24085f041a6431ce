import Mathlib
import Reckon.Expression.Operation
import Reckon.Stream.Utf8

namespace Reckon

/-- With `entered` levels entered, the script leaves them all before it is done, and no more. -/
def Script.Balanced : Script rank → (entered : Nat) → Prop
  | done _, entered => entered = 0
  | reject _, _ => True
  | look later, entered => ∀ ahead position, (later ahead position).Balanced entered
  | consume _ later, entered => later.Balanced entered
  | descend later, entered => later.Balanced (entered + 1)
  | ascend _, 0 => False
  | ascend later, entered + 1 => later.Balanced entered
  | call _ later _, entered => ∀ value, (later value).Balanced entered

/-- Groups and exponents alone enter a level, and leave it at their end. -/
theorem Call.balanced (rule : Call) : rule.script.Balanced 0 := by
  cases rule with
  | line =>
    intro value ahead _
    dsimp only
    split <;> trivial
  | sum => exact fun _ _ => rfl
  | signedTerms total =>
    intro ahead _
    dsimp only
    split
    · rfl
    · exact fun _ _ => rfl
  | term => exact fun _ _ => rfl
  | exponent =>
    intro ahead _
    dsimp only
    split
    · intro afterStar _
      dsimp only
      split
      · exact fun _ => rfl
      · trivial
    · rfl
  | operand =>
    intro ahead _
    dsimp only
    split
    · intro value afterSum _
      dsimp only
      split <;> trivial
    · exact fun _ => rfl
  | numeral =>
    intro ahead _
    dsimp only
    split
    · trivial
    · split
      · rfl
      · split
        · exact fun _ => rfl
        · trivial
  | digits total =>
    intro ahead _
    dsimp only
    split
    · rfl
    · split
      · exact fun _ => rfl
      · rfl

variable {σ α : Type}

/-- A success is at the level `ground`, and a failure between there and the limit. -/
def EndsLevel (ground : Nat) : EStateM.Result EvaluationError (Scanner σ) α → Prop
  | .ok _ rest => rest.depth = ground
  | .error _ rest => ground ≤ rest.depth ∧ rest.depth ≤ nestingLimit

private theorem EndsLevel.depth_eq {ground : Nat} {value : α} {rest : Scanner σ}
    (ends : EndsLevel ground (.ok value rest)) : rest.depth = ground := ends

private theorem Scanner.depth_of_descend {scanner inner : Scanner σ}
    (success : descend scanner = .ok () inner)
    (within : scanner.depth ≤ nestingLimit) :
    inner.depth = scanner.depth + 1 ∧ inner.depth ≤ nestingLimit := by
  unfold descend at success
  split at success <;> cases success
  rename_i below
  exact ⟨rfl, Nat.lt_of_le_of_ne within below⟩

variable [CharStream σ]

/-- From the scanner on, the script leaves no level but those deeper than `ground`, so that
it never leaves one that it has not entered. A rule that it calls has its own ground, which
is the level where it is called. -/
inductive Script.LeavesOwn : (ground : Nat) → Script rank → Scanner σ → Prop where
  | done : LeavesOwn ground (.done value) scanner
  | reject : LeavesOwn ground (.reject cause) scanner
  | look (rest : LeavesOwn ground (later scanner.lookahead scanner.position) scanner) :
      LeavesOwn ground (.look later) scanner
  | consume (rest : ∀ after, Scanner.consume expected scanner = .ok () after →
      LeavesOwn ground later after) : LeavesOwn ground (.consume expected later) scanner
  | descend (rest : ∀ inner, Scanner.descend scanner = .ok () inner →
      LeavesOwn ground later inner) : LeavesOwn ground (.descend later) scanner
  | ascend (own : ground < scanner.depth) (rest : LeavesOwn ground later scanner.ascend) :
      LeavesOwn ground (.ascend later) scanner
  | call (called : LeavesOwn scanner.depth rule.script scanner)
      (rest : ∀ value after, rule.scan scanner = .ok value after →
        LeavesOwn ground (later value) after) : LeavesOwn ground (.call rule later lower) scanner

namespace Scanner

variable {scanner rest : Scanner σ} {expected : Char} {error : EvaluationError}

theorem depth_consume (expected : Char) (scanner : Scanner σ) :
    (scannerAfter (consume expected scanner)).depth = scanner.depth := by
  unfold consume
  split
  · split <;> rfl
  · rfl

private theorem depth_of_consume (success : consume expected scanner = .ok () rest) :
    rest.depth = scanner.depth := by
  have same := depth_consume expected scanner
  rwa [success] at same

private theorem depth_of_consume_error (failure : consume expected scanner = .error error rest) :
    rest.depth = scanner.depth := by
  have same := depth_consume expected scanner
  rwa [failure] at same

end Scanner

namespace Script.LeavesOwn

variable {scanner middle : Scanner σ} {expected : Char} {error : EvaluationError} {ground : Nat}

private theorem consumed {later : Script Call.rankLimit}
    (success : Scanner.consume expected scanner = .ok () middle)
    (rest : later.LeavesOwn ground middle) :
    (Script.consume expected later : Script rank).LeavesOwn ground scanner := by
  refine .consume fun after again => ?_
  cases success.symm.trans again
  exact rest

private theorem refused {later : Script Call.rankLimit}
    (failure : Scanner.consume expected scanner = .error error middle) :
    (Script.consume expected later : Script rank).LeavesOwn ground scanner := by
  refine .consume fun after success => ?_
  cases failure.symm.trans success

private theorem descended {later : Script rank}
    (success : Scanner.descend scanner = .ok () middle) (rest : later.LeavesOwn ground middle) :
    (Script.descend later).LeavesOwn ground scanner := by
  refine .descend fun inner again => ?_
  cases success.symm.trans again
  exact rest

private theorem limited {later : Script rank}
    (failure : Scanner.descend scanner = .error error middle) :
    (Script.descend later).LeavesOwn ground scanner := by
  refine .descend fun inner success => ?_
  cases failure.symm.trans success

variable {rule : Call} {later : Value → Script rank} {lower : rule.rank < rank}

private theorem called {value : Value} (success : rule.scan scanner = .ok value middle)
    (inside : rule.script.LeavesOwn scanner.depth scanner)
    (rest : (later value).LeavesOwn ground middle) :
    (Script.call rule later lower).LeavesOwn ground scanner := by
  refine .call inside fun value after again => ?_
  cases success.symm.trans again
  exact rest

private theorem broken (failure : rule.scan scanner = .error error middle)
    (inside : rule.script.LeavesOwn scanner.depth scanner) :
    (Script.call rule later lower).LeavesOwn ground scanner := by
  refine .call inside fun value after success => ?_
  cases failure.symm.trans success

end Script.LeavesOwn

/-- A run leaves its own levels only, and ends where the levels that were entered are left. -/
theorem Script.Runs.level {script : Script rank} {scanner : Scanner σ}
    {result : EStateM.Result EvaluationError (Scanner σ) Value} {ground entered : Nat}
    (runs : Runs script scanner result) (balanced : script.Balanced entered)
    (level : scanner.depth = ground + entered) (within : scanner.depth ≤ nestingLimit) :
    script.LeavesOwn ground scanner ∧ EndsLevel ground result := by
  have above {ground entered depth : Nat} (level : depth = ground + entered) : ground ≤ depth :=
    level ▸ Nat.le_add_right ground entered
  -- A rule that is called has its own ground, with nothing entered yet.
  induction runs generalizing ground entered with
  | done =>
    rw [show entered = 0 from balanced] at level
    exact ⟨.done, level⟩
  | reject => exact ⟨.reject, above level, within⟩
  | look _ ih =>
    obtain ⟨leavesOwn, ends⟩ := ih (balanced _ _) level within
    exact ⟨.look leavesOwn, ends⟩
  | consumed success _ ih =>
    rw [← Scanner.depth_of_consume success] at level within
    obtain ⟨leavesOwn, ends⟩ := ih balanced level within
    exact ⟨.consumed success leavesOwn, ends⟩
  | refused failure =>
    rw [EndsLevel, Scanner.depth_of_consume_error failure]
    exact ⟨.refused failure, above level, within⟩
  | descended success _ ih =>
    obtain ⟨deeper, below⟩ := Scanner.depth_of_descend success within
    rw [level, Nat.add_assoc] at deeper
    obtain ⟨leavesOwn, ends⟩ := ih balanced deeper below
    exact ⟨.descended success leavesOwn, ends⟩
  | limited failure =>
    obtain rfl := Scanner.eq_of_descend_error failure
    exact ⟨.limited failure, above level, within⟩
  | ascended _ ih =>
    cases entered with
    | zero => exact balanced.elim
    | succ entered =>
      have up : _ - 1 = ground + entered := congrArg Nat.pred level
      obtain ⟨leavesOwn, ends⟩ := ih balanced up (Nat.le_trans (Nat.sub_le _ _) within)
      exact ⟨.ascend (by omega) leavesOwn, ends⟩
  | called first _ firstIH restIH =>
    obtain ⟨inside, back⟩ := firstIH (Call.balanced _) (Nat.add_zero _).symm within
    rw [← back.depth_eq] at level within
    obtain ⟨leavesOwn, ends⟩ := restIH (balanced _) level within
    exact ⟨.called first.scan_eq_call inside leavesOwn, ends⟩
  | broken failure ih =>
    obtain ⟨inside, back⟩ := ih (Call.balanced _) (Nat.add_zero _).symm within
    exact ⟨.broken failure.scan_eq_call inside, Nat.le_trans (above level) back.1, back.2⟩

theorem Call.level (rule : Call) (scanner : Scanner σ) (within : scanner.depth ≤ nestingLimit) :
    rule.script.LeavesOwn scanner.depth scanner ∧ EndsLevel scanner.depth (rule.scan scanner) :=
  (rule.runs scanner).level rule.balanced (Nat.add_zero _).symm within

inductive Follows : Scanner σ → List Rule → Scanner σ → Prop where
  | nothing : Follows scanner [] scanner
  | rule (success : rule.scan scanner = .ok value middle) (others : Follows middle rules after) :
      Follows scanner (rule :: rules) after

theorem Rule.depth_of_success {rule : Rule} {scanner rest : Scanner σ} {value : Value}
    (success : rule.scan scanner = .ok value rest) (within : scanner.depth ≤ nestingLimit) :
    rest.depth = scanner.depth := by
  have level := (rule.call.level scanner within).2
  rwa [show rule.call.scan scanner = .ok value rest from success] at level

theorem Follows.depth_eq {scanner after : Scanner σ} {rules : List Rule}
    (follows : Follows scanner rules after) (within : scanner.depth ≤ nestingLimit) :
    after.depth = scanner.depth := by
  induction follows with
  | nothing => rfl
  | rule success _ ih =>
    have level := Rule.depth_of_success success within
    exact (ih (Nat.le_trans (Nat.le_of_eq level) within)).trans level

/-- From any level within the limit, a rule leaves only levels that it has entered, in the script
that it follows as in those of the rules that it calls. A success is at the level of the
beginning, and so is a success of many rules in turn; a failure, be it of the input or of a
read, is there or deeper, and within the limit. -/
theorem rules_balanced (scanner : Scanner σ) (within : scanner.depth ≤ nestingLimit) :
    (∀ rule : Call, (rule.script.scan : Scan σ Value) = rule.scan) ∧
    (∀ rule : Rule, (rule.call.scan : Scan σ Value) = rule.scan ∧
      rule.call.script.LeavesOwn scanner.depth scanner ∧
      EndsLevel scanner.depth (rule.scan scanner)) ∧
    ∀ rules after, Follows scanner rules after → after.depth = scanner.depth := by
  refine ⟨Call.scan_script, ?_, ?_⟩
  · intro rule
    exact ⟨rfl, rule.call.level scanner within⟩
  · intro rules after follows
    exact follows.depth_eq within

/-- Two rules succeed, and the third breaks off inside a group that it has entered. -/
theorem rules_balanced_brokenGroup :
    let error := ReadError.mk .brokenPipe "broken pipe"
    let reader := ByteReader.ofSupplies [.bytes [0x2A, 0x2A, 0x32, 0x2D, 0x28], .failure error]
    let scanner : Scanner Utf8Stream := ⟨{ bytes := reader }, some '1', .start, 7, []⟩
    let power := scannerAfter (Rule.numeral.scan scanner)
    let after := scannerAfter (Rule.exponent.scan power)
    let broken := scannerAfter (Rule.signedTerms.scan after)
    scanner.depth ≤ nestingLimit ∧ Follows scanner [.numeral, .exponent] after ∧
      after.depth = 7 ∧ Rule.signedTerms.call.script.LeavesOwn 7 after ∧
      Rule.signedTerms.scan after = .error (.unreadable error) broken ∧ broken.depth = 8 := by
  intro error reader scanner power after broken
  have within : scanner.depth ≤ nestingLimit := by decide
  have first : Rule.numeral.scan scanner = .ok 1 power := by
    dsimp only [power, scanner, reader, error]
    cbv
  have second : Rule.exponent.scan power = .ok 2 after := by
    dsimp only [after, power, scanner, reader, error]
    cbv
  have third : Rule.signedTerms.scan after = .error (.unreadable error) broken := by
    dsimp only [broken, after, power, scanner, reader, error]
    cbv
  have deeper : broken.depth = 8 := by
    dsimp only [broken, after, power, scanner, reader, error]
    cbv
  have follows : Follows scanner [.numeral, .exponent] after := .rule first (.rule second .nothing)
  have back : after.depth = 7 := (rules_balanced scanner within).2.2 _ after follows
  have within' : after.depth ≤ nestingLimit := by
    rw [back]
    decide
  obtain ⟨_, leavesOwn, _⟩ := (rules_balanced after within').2.1 .signedTerms
  rw [back] at leavesOwn
  exact ⟨within, follows, back, leavesOwn, third, deeper⟩

end Reckon
