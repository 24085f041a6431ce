import Mathlib
import Reckon.Diagnostic.Style

namespace Reckon

/-- What stands from an escape and a bracket up to the next `m`. -/
def IsSequence (spelled : List Char) : Prop :=
  ∃ parameters, 'm' ∉ parameters ∧ spelled = '\x1b' :: '[' :: (parameters ++ ['m'])

theorem Style.isSequence (style : Style) : IsSequence style.sequence.toList := by
  cases style with
  | red => exact ⟨['1', ';', '3', '1'], by decide, by simp [sequence]⟩
  | cyan => exact ⟨['1', ';', '3', '6'], by decide, by simp [sequence]⟩
  | green => exact ⟨['1', ';', '3', '2'], by decide, by simp [sequence]⟩
  | blue => exact ⟨['1', ';', '3', '4'], by decide, by simp [sequence]⟩
  | plain => exact ⟨['1'], by decide, by simp [sequence]⟩

private theorem Style.oneLine (style : Style) : '\n' ∉ style.sequence.toList := by
  cases style <;> simp [sequence]

def resetSequence : List Char := "\x1b[0m".toList

theorem isSequence_reset : IsSequence resetSequence := ⟨['0'], by decide, by simp [resetSequence]⟩

private theorem oneLine_reset : '\n' ∉ resetSequence := by simp [resetSequence]

namespace Terminal

/-- A piece of a text: a character that is shown, or a sequence. -/
inductive Piece where
  | shown (character : Char)
  | sequence (spelled : List Char)

/-- The sequence that a text begins with, and what stands behind it. -/
def cut? : List Char → Option (List Char × List Char)
  | '\x1b' :: '[' :: text =>
    match text.dropWhile (· ≠ 'm') with
    | [] => none
    | final :: rest => some ('\x1b' :: '[' :: (text.takeWhile (· ≠ 'm') ++ [final]), rest)
  | _ => none

private theorem length_of_cut? {text spelled rest : List Char}
    (cut : cut? text = some (spelled, rest)) : rest.length < text.length := by
  unfold cut? at cut
  split at cut
  · rename_i text
    have shorter := (List.dropWhile_sublist (l := text) (· ≠ 'm')).length_le
    split at cut
    · cases cut
    · rename_i left
      cases cut
      rw [left, List.length_cons] at shorter
      simp only [List.length_cons]
      omega
  · cases cut

def pieces : (text : List Char) → List Piece
  | [] => []
  | character :: text =>
    match _cut : cut? (character :: text) with
    | some (spelled, rest) => .sequence spelled :: pieces rest
    | none => .shown character :: pieces text
termination_by text => text.length
decreasing_by
  · exact length_of_cut? _cut
  · exact Nat.lt_succ_self _

/-- The text with every sequence deleted. -/
def bare (text : List Char) : List Char :=
  (pieces text).filterMap fun
    | .shown character => some character
    | .sequence _ => none

def sequences (text : List Char) : List (List Char) :=
  (pieces text).filterMap fun
    | .shown _ => none
    | .sequence spelled => some spelled

private theorem pieces_cons {character : Char} (noEscape : character ≠ '\x1b') (text : List Char) :
    pieces (character :: text) = .shown character :: pieces text := by
  have uncut : cut? (character :: text) = none := by
    unfold cut?
    split
    · rename_i same
      cases same
      exact absurd rfl noEscape
    · rfl
  rw [pieces]
  split
  · rename_i cut
    rw [uncut] at cut
    cases cut
  · rfl

theorem pieces_words {words : List Char} (noEscape : '\x1b' ∉ words) (text : List Char) :
    pieces (words ++ text) = words.map .shown ++ pieces text := by
  induction words with
  | nil => rfl
  | cons character words ih =>
    rw [List.mem_cons, not_or] at noEscape
    rw [List.cons_append, pieces_cons (Ne.symm noEscape.1), ih noEscape.2]
    rfl

private theorem cut?_sequence {spelled : List Char} (isSequence : IsSequence spelled)
    (text : List Char) : cut? (spelled ++ text) = some (spelled, text) := by
  obtain ⟨parameters, inside, rfl⟩ := isSequence
  have inSequence : ∀ character ∈ parameters, decide (character ≠ 'm') = true := by
    intro character member
    refine decide_eq_true ?_
    rintro rfl
    exact inside member
  have behind : (parameters ++ 'm' :: text).dropWhile (· ≠ 'm') = 'm' :: text := by
    rw [List.dropWhile_append_of_pos inSequence]
    rfl
  have inFront : (parameters ++ 'm' :: text).takeWhile (· ≠ 'm') = parameters := by
    rw [List.takeWhile_append_of_pos inSequence]
    exact List.append_nil parameters
  simp only [List.cons_append, List.append_assoc, List.nil_append, cut?, behind, inFront]

theorem pieces_sequence {spelled : List Char} (isSequence : IsSequence spelled)
    (text : List Char) : pieces (spelled ++ text) = .sequence spelled :: pieces text := by
  have cut := cut?_sequence isSequence text
  obtain ⟨parameters, -, rfl⟩ := isSequence
  rw [List.cons_append] at cut ⊢
  rw [pieces]
  split
  · rename_i same
    cases cut.symm.trans same
    rfl
  · rename_i uncut
    cases cut.symm.trans uncut

section

variable {words : List Char} (noEscape : '\x1b' ∉ words)
include noEscape

private theorem bare_words (text : List Char) : bare (words ++ text) = words ++ bare text := by
  simp [bare, pieces_words noEscape, List.filterMap_append, List.filterMap_map]

theorem sequences_words (text : List Char) : sequences (words ++ text) = sequences text := by
  simp [sequences, pieces_words noEscape, List.filterMap_append]

private theorem sequences_eq_nil : sequences words = [] := by
  have none := sequences_words noEscape []
  rw [List.append_nil] at none
  rw [none, sequences, pieces.eq_def]
  rfl

end

section

variable {spelled : List Char} (isSequence : IsSequence spelled)
include isSequence

private theorem bare_sequence (text : List Char) : bare (spelled ++ text) = bare text := by
  rw [bare, pieces_sequence isSequence]
  rfl

theorem sequences_sequence (text : List Char) :
    sequences (spelled ++ text) = spelled :: sequences text := by
  rw [sequences, pieces_sequence isSequence]
  rfl

private theorem getLast?_sequences {text last : List Char}
    (found : (sequences text).getLast? = some last) :
    (sequences (spelled ++ text)).getLast? = some last := by
  rw [sequences_sequence isSequence, List.getLast?_cons, found]
  rfl

end

end Terminal

namespace Mark

def Lacks (character : Char) : Mark → Prop
  | text words => character ∉ words.toList
  | style _ => True
  | reset => True

/-- Where a line feed is painted no style is on, and neither is one at the end. -/
def Rests : (active : Bool) → List Mark → Prop
  | active, [] => active = false
  | active, text words :: marks => (active → '\n' ∉ words.toList) ∧ Rests active marks
  | _, style _ :: marks => Rests true marks
  | _, reset :: marks => Rests false marks

theorem rests_append {active : Bool} {marks more : List Mark} (rests : Rests active marks)
    (restsMore : Rests false more) : Rests active (marks ++ more) := by
  induction marks generalizing active with
  | nil =>
    cases rests
    exact restsMore
  | cons mark marks ih =>
    cases mark with
    | text words => exact ⟨rests.1, ih rests.2⟩
    | style chosen =>
      have on : Rests true marks := rests
      exact ih on
    | reset =>
      have off : Rests false marks := rests
      exact ih off

theorem rests_flatMap {α : Type} {items : List α} {marked : α → List Mark}
    (rests : ∀ item ∈ items, Rests false (marked item)) : Rests false (items.flatMap marked) := by
  induction items with
  | nil => rfl
  | cons item items ih =>
    rw [List.forall_mem_cons] at rests
    exact rests_append rests.1 (ih rests.2)

theorem bare_paint {marks : List Mark} (lacks : ∀ mark ∈ marks, mark.Lacks '\x1b') :
    Terminal.bare (paint true marks).toList = (paint false marks).toList := by
  induction marks with
  | nil => simp [paint_nil, Terminal.bare, Terminal.pieces]
  | cons mark marks ih =>
    rw [List.forall_mem_cons] at lacks
    simp only [paint_cons, String.toList_append]
    cases mark with
    | text words => rw [painted, Terminal.bare_words lacks.1, ih lacks.2, painted]
    | style chosen => exact (Terminal.bare_sequence chosen.isSequence _).trans (ih lacks.2)
    | reset => exact (Terminal.bare_sequence isSequence_reset _).trans (ih lacks.2)

theorem lineFeed_cases {front text before after : List Char}
    (spelled : front ++ text = before ++ '\n' :: after) :
    (∃ others, before = front ++ others ∧ text = others ++ '\n' :: after) ∨
      ∃ others, front = before ++ '\n' :: others := by
  rcases List.append_eq_append_iff.mp spelled with ⟨others, rfl, rest⟩ | ⟨others, rfl, rest⟩
  · exact .inl ⟨others, rfl, rest⟩
  · cases others with
    | nil => exact .inl ⟨[], by simp, rest.symm⟩
    | cons character others =>
      cases rest
      exact .inr ⟨others, rfl⟩

private theorem behind_of_oneLine {front text before after : List Char} (oneLine : '\n' ∉ front)
    (spelled : front ++ text = before ++ '\n' :: after) :
    ∃ others, before = front ++ others ∧ text = others ++ '\n' :: after := by
  rcases lineFeed_cases spelled with behind | ⟨others, inside⟩
  · exact behind
  · rw [inside] at oneLine
    exact absurd (List.mem_append_right _ List.mem_cons_self) oneLine

/-- In front of a line feed the last sequence is the reset. There may be none as long as no style
was on before. -/
theorem last_sequence {active : Bool} {marks : List Mark} (rests : Rests active marks)
    (lacks : ∀ mark ∈ marks, mark.Lacks '\x1b') {before after : List Char}
    (spelled : (paint true marks).toList = before ++ '\n' :: after) :
    (Terminal.sequences before).getLast? = some resetSequence ∨
      Terminal.sequences before = [] ∧ active = false := by
  induction marks generalizing active before with
  | nil => simp [paint_nil] at spelled
  | cons mark marks ih =>
    rw [List.forall_mem_cons] at lacks
    rw [paint_cons, String.toList_append] at spelled
    cases mark with
    | text words =>
      -- The line feed is one of the words, or it comes behind them.
      rcases lineFeed_cases spelled with ⟨others, rfl, rest⟩ | ⟨others, inside⟩
      · rw [painted, Terminal.sequences_words lacks.1]
        exact ih rests.2 lacks.2 rest
      · rw [painted] at inside
        have shown : '\x1b' ∉ before := by
          intro member
          exact lacks.1 (inside ▸ List.mem_append_left _ member)
        have idle : active = false := by
          refine Bool.eq_false_iff.mpr fun on => rests.1 on ?_
          rw [inside]
          exact List.mem_append_right _ List.mem_cons_self
        exact .inr ⟨Terminal.sequences_eq_nil shown, idle⟩
    | style chosen =>
      obtain ⟨others, rfl, rest⟩ := behind_of_oneLine chosen.oneLine spelled
      have on : Rests true marks := rests
      rcases ih on lacks.2 rest with last | ⟨-, off⟩
      · exact .inl (Terminal.getLast?_sequences chosen.isSequence last)
      · cases off
    | reset =>
      obtain ⟨others, rfl, rest⟩ := behind_of_oneLine oneLine_reset spelled
      have off : Rests false marks := rests
      rcases ih off lacks.2 rest with last | ⟨none, -⟩
      · exact .inl (Terminal.getLast?_sequences isSequence_reset last)
      · rw [Terminal.sequences_sequence isSequence_reset, none]
        exact .inl rfl

end Mark

end Reckon
