import Reckon.Expression.Script
import Reckon.Proofs.Meaning
import Reckon.Proofs.Nesting

/-! What the rules of the grammar make of any stream. A run of a rule reads a draft,
one character at a time, until the draft is what the rule recognises or until
something stands in the way. -/

namespace Reckon

namespace Draft

/-- What a draft that begins at `start` still needs where it stops. -/
def cause (start : Position) : Draft → Cause
  | ⟨_, _, .awaiting⟩ => .expectedNumber
  | ⟨_, _, .starred _⟩ => .loneStar
  | ⟨_, [], .read _⟩ => .trailingInput
  | ⟨_, enclosing :: around, .read _⟩ =>
    .unclosedGroup (start.afterAll (text ⟨enclosing, around, .awaiting⟩))

end Draft

variable {σ α β : Type} [CharStream σ]

/-- The scanner has consumed what the draft holds, from `origin` on. Nothing is said
about its depth. -/
inductive Progress (origin : Scanner σ) : Draft → Scanner σ → Prop where
  | start (depth : Nat) : Progress origin .blank { origin with depth }
  | step (progress : Progress origin draft scanner) (ahead : scanner.lookahead = some character)
      (step : draft.Step character after)
      (read : CharStream.next scanner.source = .ok lookahead source) (depth : Nat) :
      Progress origin after ⟨source, lookahead, scanner.position.after character, depth,
        .consumed character scanner.position.column :: scanner.events⟩

namespace Progress

variable {origin scanner : Scanner σ} {draft after : Draft}

theorem atDepth (progress : Progress origin draft scanner) (depth : Nat) :
    Progress origin draft { scanner with depth } := by
  cases progress with
  | start => exact .start depth
  | step progress ahead step read => exact .step progress ahead step read depth

theorem reads (progress : Progress origin draft scanner) : Draft.Reads .blank draft.text draft := by
  induction progress with
  | start => exact .done
  | step _ _ step _ _ ih => exact step.text ▸ ih.concat step

theorem position (progress : Progress origin draft scanner) :
    scanner.position = origin.position.afterAll draft.text := by
  induction progress with
  | start => rfl
  | step _ _ step _ _ ih => simp [step.text, Position.afterAll, ih]

end Progress

/-- The scanner has consumed the draft without going past the limit of nesting. -/
structure Admitted (origin : Scanner σ) (draft : Draft) (scanner : Scanner σ) : Prop where
  progress : Progress origin draft scanner
  within : origin.depth + draft.nesting ≤ nestingLimit

/-- What stops a run: a character that does not fit or an input that ends too early, one
level of nesting too many, or a read that fails. -/
inductive Failure (origin : Scanner σ) : EvaluationError → Scanner σ → Prop where
  | misfit (admitted : Admitted origin draft scanner)
      (refused : ∀ character after, scanner.lookahead = some character →
        ¬ draft.Step character after)
      (incomplete : draft.tree? = none ∨ scanner.isAtEnd = false) :
      Failure origin (.rejected (scanner.rejection (draft.cause origin.position))) scanner
  | deepGroup (admitted : Admitted origin draft scanner) (ahead : scanner.lookahead = some '(')
      (step : draft.Step '(' after) (deep : nestingLimit < origin.depth + after.live) :
      Failure origin (.rejected (scanner.rejection (.tooDeep nestingLimit))) scanner
  | deepPower (admitted : Admitted origin draft before) (step : draft.Step '*' after)
      (progress : Progress origin after scanner)
      (deep : nestingLimit < origin.depth + after.live) :
      Failure origin (.rejected (scanner.rejection (.tooDeep nestingLimit))) scanner
  | unreadable (admitted : Admitted origin draft scanner)
      (ahead : scanner.lookahead = some character) (step : draft.Step character after)
      (shallow : character = '(' → origin.depth + after.live ≤ nestingLimit)
      (failed : CharStream.next scanner.source = .error error source) (depth : Nat) :
      Failure origin (.unreadable error) ⟨source, scanner.lookahead,
        scanner.position.after character, depth,
        .consumed character scanner.position.column :: scanner.events⟩

/-- A run that succeeds meets the postcondition, and one that fails is accounted for. -/
def Meets (origin : Scanner σ) (post : α → Scanner σ → Prop) :
    EStateM.Result EvaluationError (Scanner σ) α → Prop
  | .ok value scanner => post value scanner
  | .error error scanner => Failure origin error scanner

namespace Meets

variable {origin start : Scanner σ} {post weaker : α → Scanner σ → Prop}

theorem mono {result : EStateM.Result EvaluationError (Scanner σ) α}
    (met : Meets origin post result)
    (implied : ∀ value rest, post value rest → weaker value rest) :
    Meets origin weaker result := by
  cases result with
  | ok value rest => exact implied value rest met
  | error error rest => exact met

theorem bind {first : Scan σ α} {next : α → Scan σ β} {final : β → Scanner σ → Prop}
    (met : Meets origin post (first start))
    (later : ∀ value rest, post value rest → Meets origin final (next value rest)) :
    Meets origin final ((first >>= next) start) := by
  change Meets origin final (EStateM.bind first next start)
  unfold EStateM.bind
  cases outcome : first start with
  | ok value rest => exact later value rest (by rwa [outcome] at met)
  | error error rest => rwa [outcome] at met

theorem called {rule : Call} {post : Value → Scanner σ → Prop}
    (met : Meets origin post (rule.scan start)) :
    Meets origin (fun value rest => post value rest ∧ rest.unread ≤ start.unread)
      (rule.scan start) := by
  have bound := rule.unread_le start
  cases outcome : rule.scan start with
  | ok value rest =>
    rw [outcome] at met bound
    exact ⟨met, bound⟩
  | error error rest => rwa [outcome] at met

end Meets

/-- Consuming a character that fits takes the draft one step further. A group is within the
limit before its parenthesis is consumed. -/
theorem Progress.consume {origin scanner : Scanner σ} {draft after : Draft} {character : Char}
    (admitted : Admitted origin draft scanner) (ahead : scanner.lookahead = some character)
    (step : draft.Step character after)
    (shallow : character = '(' → origin.depth + after.live ≤ nestingLimit) :
    Meets origin (fun _ rest => Progress origin after rest ∧ rest.depth = scanner.depth ∧
      rest.unread < scanner.unread) (Scanner.consume character scanner) := by
  have here : scanner.isAt character := by simp [Scanner.isAt, ahead]
  cases outcome : Scanner.consume character scanner with
  | ok _ rest =>
    have fewer := Scanner.unread_lt_of_consume outcome
    simp only [Scanner.consume, here, if_true] at outcome
    split at outcome <;> cases outcome
    rename_i lookahead source read
    exact ⟨.step admitted.progress ahead step read _, rfl, fewer⟩
  | error error rest =>
    simp only [Scanner.consume, here, if_true] at outcome
    split at outcome <;> cases outcome
    rename_i error source failed
    exact .unreadable admitted ahead step shallow failed _

/-- The scanner stands where the draft stops, as deep as the draft is. -/
structure Standing (origin : Scanner σ) (draft : Draft) (scanner : Scanner σ) : Prop
    extends Admitted origin draft scanner where
  depth : scanner.depth = origin.depth + draft.live

theorem Admitted.consume {origin scanner : Scanner σ} {draft after : Draft} {character : Char}
    (admitted : Admitted origin draft scanner) (ahead : scanner.lookahead = some character)
    (step : draft.Step character after) (level : after.live ≤ draft.live) :
    Meets origin (fun _ rest => Admitted origin after rest ∧ rest.depth = scanner.depth ∧
      rest.unread < scanner.unread) (Scanner.consume character scanner) := by
  have within := admitted.within
  have grown := step.nesting
  have below := draft.live_le_nesting
  refine (Progress.consume admitted ahead step fun _ => by omega).mono ?_
  intro _ rest met
  obtain ⟨progress, depth, fewer⟩ := met
  exact ⟨⟨progress, by omega⟩, depth, fewer⟩

/-- No digit is ahead that could belong to the operand. -/
def Settled (operand : Tree .operand) (lookahead : Option Char) : Prop :=
  ∀ numeral digit, operand = .numeral numeral → numeral.digits ≠ ['0'] →
    lookahead = some digit → digit.isDigit = false

/-- A term has ended, and with it its layer has come to the sum `whole`. -/
def Ended (origin : Scanner σ) (around : List Layer) (whole : Tree .sum) (depth : Nat)
    (scanner : Scanner σ) : Prop :=
  ∃ layer operand, layer.close (.plain operand) = whole ∧
    Admitted origin ⟨layer, around, .read operand⟩ scanner ∧ scanner.depth = depth ∧
      Settled operand scanner.lookahead ∧ scanner.lookahead ≠ some '*'

theorem Draft.Step.closing_of_ended {layer : Layer} {around : List Layer} {operand : Tree .operand}
    {character : Char} {after : Draft} {lookahead : Option Char}
    (step : Step ⟨layer, around, .read operand⟩ character after)
    (ahead : lookahead = some character)
    (settled : Settled operand lookahead) (noStar : lookahead ≠ some '*')
    (noSign : lookahead.bind Sign.ofCharacter? = none) : character = ')' ∧ around ≠ [] := by
  subst ahead
  cases step with
  | further nonzero isDigit =>
    have notDigit := settled _ _ rfl nonzero rfl
    simp [isDigit] at notDigit
  | star same => exact absurd (congrArg some same) noStar
  | sign same => simp [Sign.ofCharacter?_eq_some.mpr same] at noSign
  | closing same => exact ⟨same, List.cons_ne_nil _ _⟩

theorem Meets.descend {origin scanner : Scanner σ} (deep : scanner.depth = nestingLimit →
      Failure origin (.rejected (scanner.rejection (.tooDeep nestingLimit))) scanner) :
    Meets origin (fun _ inner => inner = { scanner with depth := scanner.depth + 1 } ∧
      scanner.depth ≠ nestingLimit) (Scanner.descend scanner) := by
  unfold Scanner.descend
  split
  · rename_i limit
    exact deep limit
  · rename_i below
    exact ⟨rfl, below⟩

namespace Grammar

open Reading

variable {origin : Scanner σ}

private theorem digits_reads (current : Layer) (around : List Layer) (total : Value)
    (start : Scanner σ) (numeral : Numeral)
    (standing : Standing origin ⟨current, around, .read (.numeral numeral)⟩ start)
    (nonzero : numeral.digits ≠ ['0']) (same : Int64.ofNat numeral.toNat = total) :
    Meets origin (fun value rest => rest.depth = start.depth ∧ ∃ longer : Numeral,
      Int64.ofNat longer.toNat = value ∧
        Standing origin ⟨current, around, .read (.numeral longer)⟩ rest ∧
          Settled (.numeral longer) rest.lookahead) ((Call.digits total).scan start) := by
  induction total, start using digits.induct generalizing numeral with
  | case1 total start ended =>
    rw [← Call.scan_script]
    simp only [Call.script, Script.scan, ended]
    exact ⟨rfl, numeral, same, standing, fun _ _ _ _ ahead => by simp [ended] at ahead⟩
  | case2 total start character ahead isDigit ih =>
    rw [← Call.scan_script]
    simp only [Call.script, Script.scan, ahead, isDigit, if_true, bind_pure]
    have further : Draft.Step ⟨current, around, .read (.numeral numeral)⟩ character
        ⟨current, around, .read (.numeral (numeral.append character nonzero isDigit))⟩ :=
      .further nonzero isDigit
    refine (standing.consume ahead further (Nat.le_refl _)).bind ?_
    intro _ rest met
    obtain ⟨admitted, depth, fewer⟩ := met
    refine (ih rest fewer _ ⟨admitted, depth.trans standing.depth⟩
      (numeral.append_nonzero character nonzero isDigit) ?_).mono ?_
    · rw [Numeral.value_append, same]
    · intro value last met
      obtain ⟨depth', found⟩ := met
      exact ⟨depth'.trans depth, found⟩
  | case3 total start character ahead notDigit =>
    rw [← Call.scan_script]
    simp only [Call.script, Script.scan, ahead, notDigit]
    refine ⟨rfl, numeral, same, standing, ?_⟩
    intro _ digit _ _ found
    rw [ahead] at found
    cases found
    exact Bool.eq_false_iff.mpr notDigit

private theorem numeral_reads (current : Layer) (around : List Layer) (start : Scanner σ)
    (standing : Standing origin ⟨current, around, .awaiting⟩ start)
    (noGroup : start.lookahead ≠ some '(') :
    Meets origin (fun value rest => rest.depth = start.depth ∧ ∃ numeral : Numeral,
      Int64.ofNat numeral.toNat = value ∧
        Standing origin ⟨current, around, .read (.numeral numeral)⟩ rest ∧
          Settled (.numeral numeral) rest.lookahead) (Call.numeral.scan start) := by
  have refuse (noDigit : ∀ character, start.lookahead = some character → ¬ character.isDigit) :
      Failure origin (.rejected (start.rejection .expectedNumber)) start := by
    refine .misfit standing.toAdmitted ?_ (.inl (Draft.tree?_awaiting ..))
    intro character after ahead step
    cases step with
    | opening same => exact noGroup (same ▸ ahead)
    | digit isDigit => exact noDigit character ahead isDigit
  rw [← Call.scan_script, Call.script, Script.scan_look]
  cases ahead : start.lookahead with
  | none => exact refuse (by simp [ahead])
  | some character =>
    by_cases zero : character = '0'
    · subst zero
      simp only [if_true, Script.scan]
      have digit : Draft.Step ⟨current, around, .awaiting⟩ '0'
          ⟨current, around, .read (.numeral (.ofDigit '0' rfl))⟩ := .digit rfl
      refine (standing.consume ahead digit (Nat.le_refl _)).bind ?_
      intro _ rest met
      obtain ⟨admitted, depth, _⟩ := met
      refine ⟨depth, _, rfl, ⟨admitted, depth.trans standing.depth⟩, ?_⟩
      intro _ _ zero nonzero
      cases zero
      exact absurd rfl nonzero
    · by_cases isDigit : character.isDigit
      · simp only [zero, if_false, isDigit, if_true, Script.scan, bind_pure]
        have digit : Draft.Step ⟨current, around, .awaiting⟩ character
            ⟨current, around, .read (.numeral (.ofDigit character isDigit))⟩ := .digit isDigit
        refine (standing.consume ahead digit (Nat.le_refl _)).bind ?_
        intro _ rest met
        obtain ⟨admitted, depth, _⟩ := met
        refine (digits_reads current around _ rest _ ⟨admitted, depth.trans standing.depth⟩ ?_
          (Numeral.value_ofDigit character isDigit)).mono ?_
        · simpa [Numeral.ofDigit] using zero
        · intro value last met
          obtain ⟨depth', found⟩ := met
          exact ⟨depth'.trans depth, found⟩
      · simp only [zero, if_false, isDigit]
        exact refuse (by simpa [ahead] using isDigit)

/-- What each rule reads, from a scanner that stands where the rule begins. -/
def OperandReads (origin start : Scanner σ) : Prop :=
  ∀ current around, Standing origin ⟨current, around, .awaiting⟩ start →
    Meets origin (fun value rest => rest.depth = start.depth ∧ ∃ operand : Tree .operand,
      operand.value = value ∧ Standing origin ⟨current, around, .read operand⟩ rest ∧
        Settled operand rest.lookahead) (Call.operand.scan start)

def ExponentReads (origin start : Scanner σ) : Prop :=
  ∀ current around (base : Tree .operand), Standing origin ⟨current, around, .read base⟩ start →
    Settled base start.lookahead →
    Meets origin (fun value rest => ∃ term : Tree .term, term.value = base.value.power value ∧
      Ended origin around (current.close term) start.depth rest) (Call.exponent.scan start)

def TermReads (origin start : Scanner σ) : Prop :=
  ∀ current around, Standing origin ⟨current, around, .awaiting⟩ start →
    Meets origin (fun value rest => ∃ term : Tree .term, term.value = value ∧
      Ended origin around (current.close term) start.depth rest) (Call.term.scan start)

def SignedTermsRead (origin : Scanner σ) (total : Value) (start : Scanner σ) : Prop :=
  ∀ around first whole, Ended origin around whole start.depth start →
    start.depth = origin.depth + Draft.live ⟨.empty, around, .awaiting⟩ →
    whole.value = first + total →
    Meets origin (fun value rest => ∃ whole : Tree .sum, whole.value = first + value ∧
      Ended origin around whole start.depth rest ∧
        rest.lookahead.bind Sign.ofCharacter? = none) ((Call.signedTerms total).scan start)

def SumReads (origin start : Scanner σ) : Prop :=
  ∀ around, Standing origin ⟨.empty, around, .awaiting⟩ start →
    Meets origin (fun value rest => ∃ whole : Tree .sum, whole.value = value ∧
      Ended origin around whole start.depth rest ∧
        rest.lookahead.bind Sign.ofCharacter? = none) (Call.sum.scan start)

private theorem closing_reads (current : Layer) (around : List Layer) (start scanner : Scanner σ)
    (standing : Standing origin ⟨current, around, .awaiting⟩ start) (whole : Tree .sum)
    (ended : Ended origin (current :: around) whole (start.depth + 1) scanner)
    (noSign : scanner.lookahead.bind Sign.ofCharacter? = none) :
    Meets origin (fun value rest => rest.depth = start.depth ∧ ∃ operand : Tree .operand,
      operand.value = value ∧ Standing origin ⟨current, around, .read operand⟩ rest ∧
        Settled operand rest.lookahead)
      ((Script.closing start.position whole.value : Script rank).scan scanner) := by
  obtain ⟨layer, operand, closed, admitted, depth, settled, noStar⟩ := ended
  rw [Script.closing, Script.scan_look, ← Scanner.isAt]
  split
  · rename_i here
    have ahead : scanner.lookahead = some ')' := by simpa [Scanner.isAt] using here
    have close : Draft.Step ⟨layer, current :: around, .read operand⟩ ')'
        ⟨current, around, .read (.group (layer.close (.plain operand)))⟩ := .closing rfl
    refine (admitted.consume ahead close (by simp [Draft.live]; omega)).bind ?_
    intro _ rest met
    obtain ⟨consumed, same, _⟩ := met
    rw [closed] at consumed
    have up : rest.ascend.depth = start.depth := by simp [Scanner.ascend, same, depth]
    refine ⟨up, .group whole, rfl, ⟨⟨consumed.progress.atDepth _, consumed.within⟩,
      up.trans standing.depth⟩, ?_⟩
    intro _ _ group
    cases group
  · rename_i absent
    have opened : (Draft.mk layer (current :: around) (.read operand)).cause origin.position =
        .unclosedGroup start.position := by
      rw [Draft.cause, ← standing.progress.position]
    rw [← opened]
    refine .misfit admitted ?_ (.inl rfl)
    intro character after ahead step
    have closing := (step.closing_of_ended ahead settled noStar noSign).1
    exact absent (by simp [Scanner.isAt, ahead, closing])

private theorem operand_reads (start : Scanner σ)
    (sum_reads : start.isAt '(' = true → ∀ inner : Scanner σ, inner.unread = start.unread →
      ∀ opened : Scanner σ, opened.unread < inner.unread → SumReads origin opened) :
    OperandReads origin start := by
  intro current around standing
  rw [← Call.scan_script, Call.script, Script.scan_look, ← Scanner.isAt]
  split
  · rename_i here
    have ahead : start.lookahead = some '(' := by simpa [Scanner.isAt] using here
    have opening : Draft.Step ⟨current, around, .awaiting⟩ '('
        ⟨.empty, current :: around, .awaiting⟩ := .opening rfl
    have deeper := Draft.live_opened current around
    have level := standing.depth
    refine (Meets.descend fun limit => ?_).bind ?_
    · exact .deepGroup standing.toAdmitted ahead opening (by omega)
    intro _ inner met
    obtain ⟨rfl, below⟩ := met
    have admitted : Admitted origin ⟨current, around, .awaiting⟩
        { start with depth := start.depth + 1 } :=
      ⟨standing.progress.atDepth _, standing.within⟩
    have within := standing.within
    have grown := opening.nesting
    have least := Draft.live_le_nesting ⟨current, around, .awaiting⟩
    refine (Progress.consume admitted ahead opening fun _ => by omega).bind ?_
    intro _ opened met
    obtain ⟨progress, depth, fewer⟩ := met
    have inside : Standing origin ⟨.empty, current :: around, .awaiting⟩ opened :=
      ⟨⟨progress, by omega⟩, by rw [depth]; simp only; omega⟩
    refine (sum_reads here _ rfl opened fewer _ inside).bind ?_
    intro _ afterSum met
    obtain ⟨whole, rfl, ended, noSign⟩ := met
    rw [depth] at ended
    exact closing_reads current around start afterSum standing whole ended noSign
  · rename_i absent
    rw [Script.scan_call_done]
    refine (numeral_reads current around start standing ?_).mono ?_
    · intro ahead
      exact absent (by simp [Scanner.isAt, ahead])
    · intro value rest met
      obtain ⟨depth, numeral, same, found, settled⟩ := met
      exact ⟨depth, .numeral numeral, same, found, settled⟩

private theorem exponent_reads (start : Scanner σ)
    (term_reads : start.isAt '*' = true → ∀ afterStar : Scanner σ,
      afterStar.unread < start.unread → ∀ afterStars : Scanner σ,
        afterStars.unread < afterStar.unread → ∀ inner : Scanner σ,
          inner.unread = afterStars.unread → TermReads origin inner) :
    ExponentReads origin start := by
  intro current around base standing settled
  rw [← Call.scan_script, Call.script, Script.scan_look, ← Scanner.isAt]
  split
  · rename_i here
    have ahead : start.lookahead = some '*' := by simpa [Scanner.isAt] using here
    have star : Draft.Step ⟨current, around, .read base⟩ '*' ⟨current, around, .starred base⟩ :=
      .star rfl
    refine (standing.consume ahead star (Nat.le_refl _)).bind ?_
    intro _ afterStar met
    obtain ⟨admitted, depth, fewer⟩ := met
    rw [Script.scan_look, ← Scanner.isAt]
    split
    · rename_i here'
      have ahead' : afterStar.lookahead = some '*' := by simpa [Scanner.isAt] using here'
      have secondStar : Draft.Step ⟨current, around, .starred base⟩ '*'
          ⟨current.raise base, around, .awaiting⟩ := .secondStar rfl
      have deeper := Draft.live_raised current around base
      have level : start.depth = origin.depth + Draft.live ⟨current, around, .starred base⟩ :=
        standing.depth
      refine (Progress.consume admitted ahead' secondStar (absurd · (by decide))).bind ?_
      intro _ afterStars met
      obtain ⟨progress, depth', fewer'⟩ := met
      refine (Meets.descend fun limit => ?_).bind ?_
      · exact .deepPower admitted secondStar progress (by omega)
      intro _ inner met
      obtain ⟨rfl, below⟩ := met
      have within := admitted.within
      have grown := secondStar.nesting
      have least := Draft.live_le_nesting ⟨current, around, .starred base⟩
      have inside : Standing origin ⟨current.raise base, around, .awaiting⟩
          { afterStars with depth := afterStars.depth + 1 } :=
        ⟨⟨progress.atDepth _, by omega⟩, by simp only; omega⟩
      refine (term_reads here _ fewer _ fewer' { afterStars with depth := afterStars.depth + 1 } rfl
        _ _ inside).bind ?_
      intro _ rest met
      obtain ⟨term, rfl, layer, operand, closed, found, same, settled', noStar⟩ := met
      have up : rest.ascend.depth = start.depth := by
        simp only [Scanner.ascend, same]
        omega
      exact ⟨.power base term, rfl, layer, operand, closed,
        ⟨found.progress.atDepth _, found.within⟩, up, settled', noStar⟩
    · rename_i absent
      refine .misfit admitted ?_ (.inl (Draft.tree?_starred ..))
      intro character after ahead' step
      cases step with
      | secondStar same => exact absent (by simp [Scanner.isAt, ahead', same])
  · rename_i absent
    refine ⟨.plain base, by simp [Tree.value], current, base, rfl, standing.toAdmitted, rfl,
      settled, ?_⟩
    intro ahead
    exact absent (by simp [Scanner.isAt, ahead])

private theorem term_reads (start : Scanner σ) (operand_reads : OperandReads origin start)
    (exponent_reads : ∀ afterBase : Scanner σ, afterBase.unread ≤ start.unread →
      ExponentReads origin afterBase) : TermReads origin start := by
  intro current around standing
  rw [← Call.scan_script]
  refine (operand_reads current around standing).called.bind ?_
  intro _ afterBase met
  obtain ⟨⟨depth, base, rfl, found, settled⟩, bound⟩ := met
  refine (exponent_reads afterBase bound current around base found settled).bind ?_
  intro power rest met
  obtain ⟨term, same, ended⟩ := met
  rw [depth] at ended
  exact ⟨term, same, ended⟩

private theorem signedTerms_read_none (total : Value) (start : Scanner σ)
    (noSign : start.lookahead.bind Sign.ofCharacter? = none) :
    SignedTermsRead origin total start := by
  intro around first whole ended _ same
  rw [← Call.scan_script]
  simp only [Call.script, Script.scan_look, noSign]
  exact ⟨whole, same, ended, noSign⟩

private theorem signedTerms_read (total : Value) (start : Scanner σ) (sign : Sign)
    (present : start.lookahead.bind Sign.ofCharacter? = some sign)
    (term_reads : ∀ afterSign : Scanner σ, afterSign.unread < start.unread →
      TermReads origin afterSign)
    (others_read : ∀ afterSign : Scanner σ, afterSign.unread < start.unread →
      ∀ (value : Value) (afterTerm : Scanner σ), afterTerm.unread ≤ afterSign.unread →
        SignedTermsRead origin (sign.apply total value) afterTerm) :
    SignedTermsRead origin total start := by
  intro around first whole ended level same
  obtain ⟨layer, operand, closed, admitted, _, _, _⟩ := ended
  have ahead : start.lookahead = some sign.character := by
    obtain ⟨character, ahead, found⟩ := Option.bind_eq_some_iff.mp present
    rw [ahead, Sign.ofCharacter?_eq_some.mp found]
  have next : Draft.Step ⟨layer, around, .read operand⟩ sign.character
      ⟨⟨some (whole, sign), []⟩, around, .awaiting⟩ := closed ▸ .sign rfl
  rw [← Call.scan_script]
  simp only [Call.script, Script.scan, present, bind_pure]
  refine (admitted.consume ahead next (by simp [Draft.live])).bind ?_
  intro _ afterSign met
  obtain ⟨consumed, depth, fewer⟩ := met
  refine (term_reads afterSign fewer _ around ⟨consumed, depth.trans level⟩).called.bind ?_
  intro _ afterTerm met
  obtain ⟨⟨term, rfl, ended⟩, bound⟩ := met
  have depth' : afterTerm.depth = afterSign.depth := by
    obtain ⟨_, _, _, _, depth', _⟩ := ended
    exact depth'
  have value : (Tree.signed whole sign term).value = first + sign.apply total term.value := by
    rw [Tree.value, same, Sign.apply_add]
  refine (others_read afterSign fewer _ afterTerm bound around first (.signed whole sign term)
    (depth' ▸ ended) (depth'.trans (depth.trans level)) value).mono ?_
  intro others rest met
  obtain ⟨whole', same', ended', noSign⟩ := met
  rw [depth', depth] at ended'
  exact ⟨whole', same', ended', noSign⟩

private theorem sum_reads (start : Scanner σ) (term_reads : TermReads origin start)
    (others_read : ∀ afterFirst : Scanner σ, afterFirst.unread ≤ start.unread →
      SignedTermsRead origin 0 afterFirst) : SumReads origin start := by
  intro around standing
  rw [← Call.scan_script]
  refine (term_reads .empty around standing).called.bind ?_
  intro _ afterFirst met
  obtain ⟨⟨term, rfl, ended⟩, bound⟩ := met
  have depth : afterFirst.depth = start.depth := by
    obtain ⟨_, _, _, _, depth, _⟩ := ended
    exact depth
  refine (others_read afterFirst bound around term.value (.single term) (depth ▸ ended)
    (depth.trans standing.depth) (Int64.add_zero _).symm).bind ?_
  intro others rest met
  obtain ⟨whole, same, ended', noSign⟩ := met
  rw [depth] at ended'
  exact ⟨whole, same, ended', noSign⟩

/-- Each rule reads what it is for, from any scanner that stands where the rule begins. -/
theorem reads_always (origin : Scanner σ) :
    (∀ start, SumReads origin start) ∧
      (∀ total start, SignedTermsRead origin total start) ∧
      (∀ start, TermReads origin start) ∧ (∀ start, ExponentReads origin start) ∧
      ∀ start, OperandReads origin start := by
  -- By the recursion of the rules, where each call has less to read or goes further down.
  have all := sum.mutual_induct (SumReads origin) (SignedTermsRead origin)
    (TermReads origin) (ExponentReads origin) (OperandReads origin)
  refine all ?_ ?_ ?_ ?_ ?_ ?_ ?_ ?_
  · exact sum_reads
  · exact signedTerms_read_none
  · exact signedTerms_read
  · exact term_reads
  · exact fun start _ inner => exponent_reads start fun _ => inner
  · exact fun start absent => exponent_reads start fun here => absurd here absent
  · exact fun start _ inner => operand_reads start fun _ => inner
  · exact fun start absent => operand_reads start fun here => absurd here absent

theorem sum_reads_always (origin start : Scanner σ) : SumReads origin start :=
  (reads_always origin).1 start

theorem line_reads (origin : Scanner σ) (shallow : origin.depth ≤ nestingLimit) :
    Meets origin (fun value rest => ∃ draft tree, draft.tree? = some tree ∧ tree.value = value ∧
      Admitted origin draft rest ∧ rest.isAtEnd = true) (Call.line.scan origin) := by
  have blank : Standing origin .blank origin := ⟨⟨.start origin.depth, shallow⟩, rfl⟩
  rw [← Call.scan_script]
  refine (sum_reads_always origin origin [] blank).bind ?_
  intro _ rest met
  obtain ⟨tree, rfl, ⟨layer, operand, closed, admitted, _, settled, noStar⟩, noSign⟩ := met
  have complete : Draft.tree? ⟨layer, [], .read operand⟩ = some tree := by rw [Draft.tree?, closed]
  rw [Script.scan_look, ← Scanner.isAtEnd]
  split
  · rename_i ended
    exact ⟨_, tree, complete, rfl, admitted, ended⟩
  · rename_i more
    refine .misfit admitted ?_ (.inr (Bool.eq_false_iff.mpr more))
    intro character after ahead step
    exact (step.closing_of_ended ahead settled noStar noSign).2 rfl

end Grammar

end Reckon
