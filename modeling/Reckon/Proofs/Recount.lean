import Reckon.Proofs.Answers
import Reckon.Proofs.Bookkeeping

namespace Reckon

namespace Position

theorem offset_after (position : Position) (character : Char) :
    (position.after character).offset = position.offset + character.utf8Size := by
  unfold after
  split
  · rename_i feed
    subst feed
    rfl
  · rfl

private theorem after_ne (position : Position) (character : Char) :
    position.after character ≠ position := by
  intro same
  have offset := position.offset_after character
  have positive := character.utf8Size_pos
  rw [same] at offset
  omega

private theorem offset_afterAll (position : Position) (text : List Char) :
    (position.afterAll text).offset = position.offset + (text.map Char.utf8Size).sum := by
  induction text generalizing position with
  | nil => rfl
  | cons character text ih =>
    have others := ih (position.after character)
    rw [offset_after] at others
    simpa [afterAll, Nat.add_assoc] using others

private theorem offset_sublist {passed counted : List Char} (kept : passed.Sublist counted) :
    (start.afterAll passed).offset + counted.length ≤
      (start.afterAll counted).offset + passed.length := by
  rw [offset_afterAll, offset_afterAll]
  induction kept with
  | slnil => exact Nat.le_refl _
  | cons character _ ih =>
    have positive := character.utf8Size_pos
    simp only [List.map_cons, List.sum_cons, List.length_cons]
    omega
  | cons_cons character _ ih =>
    simp only [List.map_cons, List.sum_cons, List.length_cons]
    omega

end Position

variable {σ : Type} [CharStream σ]

/-- How the consumption of `expected` comes out. -/
inductive Consumption (expected : Char) (scanner : Scanner σ) :
    EStateM.Result EvaluationError (Scanner σ) Unit → Prop where
  | refused (other : scanner.lookahead ≠ some expected) :
      Consumption expected scanner
        (.error (.rejected (scanner.rejection (.expected expected))) scanner)
  | consumed (ahead : scanner.lookahead = some expected)
      (read : CharStream.next scanner.source = .ok lookahead source) :
      Consumption expected scanner (.ok () ⟨source, lookahead, scanner.position.after expected,
        scanner.depth, .consumed expected scanner.position.column :: scanner.events⟩)
  | broken (ahead : scanner.lookahead = some expected)
      (failed : CharStream.next scanner.source = .error error source) :
      Consumption expected scanner (.error (.unreadable error) ⟨source, scanner.lookahead,
        scanner.position.after expected, scanner.depth,
        .consumed expected scanner.position.column :: scanner.events⟩)

theorem Scanner.consumption (expected : Char) (scanner : Scanner σ) :
    Consumption expected scanner (consume expected scanner) := by
  unfold consume
  split
  · rename_i here
    have ahead : scanner.lookahead = some expected := by simpa [isAt] using here
    split
    · rename_i read
      exact .consumed ahead read
    · rename_i failed
      exact .broken ahead failed
  · rename_i absent
    exact .refused (by simpa [isAt] using absent)

/-- What a consumption of `expected` that fails makes of the scanner. -/
structure Failed (expected : Char) (scanner after : Scanner σ) : Prop where
  lookahead : after.lookahead = scanner.lookahead
  depth : after.depth = scanner.depth
  refused : scanner.lookahead ≠ some expected → after = scanner
  broken : scanner.lookahead = some expected →
    after.position = scanner.position.after expected ∧ after.position ≠ scanner.position

private theorem Scanner.failed_of_consume {expected : Char} {scanner after : Scanner σ}
    {error : EvaluationError} (failure : consume expected scanner = .error error after) :
    Failed expected scanner after := by
  have outcome := scanner.consumption expected
  rw [failure] at outcome
  cases outcome with
  | refused other => exact ⟨rfl, rfl, fun _ => rfl, fun ahead => absurd ahead other⟩
  | broken ahead failed =>
    exact ⟨rfl, rfl, fun other => absurd ahead other, fun _ => ⟨rfl, Position.after_ne _ _⟩⟩

/-- The account of a scanner after consumptions, failed or not. Of the characters that the
source has handed out, `passed` are those in front of the one ahead, and `counted` are those
that make up the position: a character is counted again whenever a read behind it fails. -/
structure Recounts (source : σ) (answers : List Answer) (passed counted : List Char)
    (scanner : Scanner σ) : Prop where
  asked : Asked source answers scanner.source
  handedOut : Answer.returned answers = passed ++ scanner.lookahead.toList
  position : scanner.position = Position.start.afterAll counted
  depth : scanner.depth = 0
  kept : passed.Sublist counted
  surplus : counted.length = passed.length + (Answer.failures answers).length

namespace Recounts

variable {source rest : σ} {answers : List Answer} {passed counted : List Char}
  {scanner : Scanner σ}

private theorem fresh {lookahead : Option Char}
    (read : CharStream.next source = .ok lookahead rest) :
    Recounts source [.ok lookahead] [] [] ⟨rest, lookahead, .start, 0, []⟩ where
  asked := .answer .nothing read
  handedOut := by cases lookahead <;> rfl
  position := rfl
  depth := rfl
  kept := .slnil
  surplus := rfl

theorem consume (recounts : Recounts source answers passed counted scanner) (expected : Char) :
    ∃ answers passed counted, Recounts source answers passed counted
      (scannerAfter (Scanner.consume expected scanner)) := by
  have outcome := scanner.consumption expected
  generalize Scanner.consume expected scanner = result at outcome
  cases outcome with
  | refused => exact ⟨answers, passed, counted, recounts⟩
  | @consumed lookahead rest ahead read =>
    refine ⟨answers ++ [.ok lookahead], passed ++ [expected], counted ++ [expected],
      .answer recounts.asked read, ?_, ?_, recounts.depth, recounts.kept.append (.refl _), ?_⟩
    · rw [Answer.returned_append, recounts.handedOut, ahead]
      cases lookahead <;> rfl
    · rw [Position.afterAll_concat, ← recounts.position]
      rfl
    · rw [Answer.failures_append, List.length_append, List.length_append, List.length_append,
        recounts.surplus]
      exact Nat.add_right_comm ..
  | @broken error rest ahead failed =>
    refine ⟨answers ++ [.error error], passed, counted ++ [expected],
      .failure recounts.asked failed, ?_, ?_, recounts.depth, ?_, ?_⟩
    · rw [Answer.returned_append, recounts.handedOut]
      exact List.append_nil _
    · rw [Position.afterAll_concat, ← recounts.position]
      rfl
    · exact recounts.kept.trans (List.sublist_append_left ..)
    · rw [Answer.failures_append, List.length_append, List.length_append, recounts.surplus]
      rfl

theorem after (recounts : Recounts source answers passed counted scanner)
    (attempts : List Char) : ∃ answers passed counted,
      Recounts source answers passed counted (scanner.after (attempts.map .consume)) := by
  induction attempts generalizing answers passed counted scanner with
  | nil => exact ⟨answers, passed, counted, recounts⟩
  | cons expected attempts ih =>
    obtain ⟨_, _, _, next⟩ := recounts.consume expected
    have same : scannerAfter ((Operation.consume expected).perform scanner) =
        scannerAfter (Scanner.consume expected scanner) := by
      change scannerAfter (EStateM.bind _ _ scanner) = _
      unfold EStateM.bind
      cases Scanner.consume expected scanner <;> rfl
    rw [← same] at next
    exact ih next

/-- The position is that of the character ahead as long as no read has failed, and never
again. -/
theorem position_iff (recounts : Recounts source answers passed counted scanner) :
    scanner.position = Position.start.afterAll passed ↔ Answer.failures answers = [] := by
  have surplus := recounts.surplus
  constructor
  · intro placed
    have further := Position.offset_sublist recounts.kept
    rw [← recounts.position, placed] at further
    exact List.length_eq_zero_iff.mp (by omega)
  · intro none
    rw [none, List.length_nil, Nat.add_zero] at surplus
    rw [recounts.position, recounts.kept.eq_of_length surplus.symm]

end Recounts

/-- A refused consumption changes nothing, and one whose read fails nothing but the position,
which moves as if it had succeeded. So after any consumptions the position is that of the
character ahead exactly if none of their reads has failed; each that has failed counts one
character more. -/
theorem consume_recounts (source : σ) (origin : Scanner σ)
    (begun : Scanner.ofSource source = .ok origin) :
    (∀ (scanner : Scanner σ) expected error after,
      Scanner.consume expected scanner = .error error after → Failed expected scanner after) ∧
    ∀ attempts : List Char, ∃ answers passed counted,
      Recounts source answers passed counted (origin.after (attempts.map .consume)) ∧
        ((origin.after (attempts.map .consume)).position = Position.start.afterAll passed ↔
          Answer.failures answers = []) := by
  refine ⟨fun scanner expected error after => Scanner.failed_of_consume, fun attempts => ?_⟩
  unfold Scanner.ofSource at begun
  split at begun <;> cases begun
  rename_i read
  obtain ⟨answers, passed, counted, recounts⟩ := (Recounts.fresh read).after attempts
  exact ⟨answers, passed, counted, recounts, recounts.position_iff⟩

/-- Two reads fail behind the first character, and it is counted three times when the third
succeeds. -/
theorem consume_recounts_thirdAttempt :
    let error := ReadError.mk .other "boom"
    let supplies := [.failure error, .failure error, .bytes [0x32]]
    let source : Utf8Stream := { bytes := .ofSupplies (.bytes [0x31] :: supplies) }
    let origin : Scanner Utf8Stream := ⟨⟨⟨[], supplies⟩, ['1']⟩, some '1', .start, 0, []⟩
    let last := origin.after (['1', '1', '1'].map .consume)
    Scanner.ofSource source = .ok origin ∧
      (∃ after, Scanner.consume '1' origin = .error (.unreadable error) after ∧
        Failed '1' origin after) ∧
      last.lookahead = some '2' ∧ last.position = ⟨1, 4, 3⟩ ∧
      ∃ answers passed counted, Recounts source answers passed counted last ∧
        (last.position = Position.start.afterAll passed ↔ Answer.failures answers = []) := by
  intro error supplies source origin last
  have begun : Scanner.ofSource source = .ok origin := by
    dsimp only [source, origin, supplies]
    cbv
  have failure : Scanner.consume '1' origin = .error (.unreadable error)
      ⟨⟨⟨[], supplies.tail⟩, ['1']⟩, some '1', ⟨1, 2, 1⟩, 0, [.consumed '1' 1]⟩ := by
    dsimp only [origin, supplies]
    cbv
  obtain ⟨failed, run⟩ := consume_recounts source origin begun
  refine ⟨begun, ⟨_, failure, failed _ _ _ _ failure⟩, ?_, ?_, run ['1', '1', '1']⟩
  all_goals
    dsimp only [last, origin, supplies]
    cbv

/-- A character is consumed again after a read that failed, and counted again: the second
character is ahead then, at the position of the third. -/
theorem consume_countsAgain :
    let error := ReadError.mk .other "boom"
    let source : Utf8Stream :=
      { bytes := .ofSupplies [.bytes [0x31], .failure error, .bytes [0x32]] }
    ∃ origin failed after, Scanner.ofSource source = .ok origin ∧
      Scanner.consume '1' origin = .error (.unreadable error) failed ∧
      failed.lookahead = origin.lookahead ∧ origin.position = ⟨1, 1, 0⟩ ∧
      failed.position = ⟨1, 2, 1⟩ ∧ Scanner.consume '1' failed = .ok () after ∧
      after.lookahead = some '2' ∧ after.position = ⟨1, 3, 2⟩ := by
  intro error source
  refine ⟨⟨⟨⟨[], [.failure error, .bytes [0x32]]⟩, ['1']⟩, some '1', .start, 0, []⟩,
    ⟨⟨⟨[], [.bytes [0x32]]⟩, ['1']⟩, some '1', ⟨1, 2, 1⟩, 0, [.consumed '1' 1]⟩,
    ⟨⟨⟨[], []⟩, ['2', '1']⟩, some '2', ⟨1, 3, 2⟩, 0, [.consumed '1' 2, .consumed '1' 1]⟩,
    ?_, rfl, rfl, rfl, rfl, rfl, rfl, rfl⟩
  dsimp only [source, error]
  cbv

end Reckon
