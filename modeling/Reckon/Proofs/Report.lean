import Reckon.Expression.Evaluate
import Reckon.Proofs.Causes
import Reckon.Proofs.Printed

namespace Reckon

namespace Extract

/-- The first mark below the quoted line is a single one. It stands in the column of the
character that was found, or right behind the line if its end was found. -/
structure PointsAt (extract : Extract) (found : Option Char) (place : Nat) : Prop where
  marked : extract.marker.toList[place]? = some extract.mark
  first : extract.mark ∉ extract.marker.toList.take place
  single : extract.marker.toList[place + 1]? = some ' '
  below : ∀ character, found = some character → character ≠ '\n' →
    extract.quoted.toList[place]? = some character
  behind : found = none ∨ found = some '\n' → place = extract.quoted.toList.length

private theorem pointsAt {extract : Extract} {before : List Char} (rest : List Char)
    (quotes : extract.line = before ++ rest.takeWhile (· != '\n'))
    (column : extract.column = before.length + 1) (width : extract.width = 1)
    (visible : extract.mark ≠ ' ' ∧ extract.mark ≠ '|') :
    extract.PointsAt rest.head? extract.place := by
  have underlines := extract.underlines visible
  have dropped := extract.quoted_drop
  rw [width] at underlines
  rw [quotes, column, Nat.add_sub_cancel, List.drop_left] at dropped
  refine ⟨?_, underlines.unmarked, underlines.blank, ?_, ?_⟩
  · have marked := underlines.marked
    rw [List.take_one, List.head?_drop] at marked
    exact Option.toList_eq_singleton_iff.mp marked
  · intro character found inLine
    obtain ⟨others, rfl⟩ := List.head?_eq_some_iff.mp found
    rw [← List.head?_drop, dropped]
    simp [inLine]
  · intro ended
    have nothing : rest.takeWhile (· != '\n') = [] := by
      refine takeWhile_of_atEnd ?_
      rcases ended with absent | feed
      · exact congrArg (Option.all (· == '\n')) absent
      · exact congrArg (Option.all (· == '\n')) feed
    simp [quoted, place, quotes, nothing, column]

end Extract

private theorem Document.line?_one (name text : String) :
    line? ⟨name, text⟩ 1 = some (String.ofList (firstLine text)) := by
  have same : (fun character : Char => decide (character ≠ '\n')) = (· != '\n') := by
    funext character
    simp [bne, Bool.beq_eq_decide_eq]
  rw [line?, lineAfter, firstLine, same]
  rfl

/-- A label of one column in the first line of a document is printed with that line. -/
theorem Label.lines_of_first (label : Label) (documents : Documents) {name text : String}
    (held : documents.get? label.span.document = some ⟨name, text⟩)
    (first : label.span.start.line = 1) (single : label.span.width = 1) :
    label.lines documents = Extract.lines ⟨name, 1, firstLine text, label.span.start.column, 1,
      if label.primary then '^' else '-', label.message⟩ := by
  have line : Document.line? ⟨name, text⟩ label.span.start.line =
      some (String.ofList (firstLine text)) := by
    rw [first, Document.line?_one]
  rw [Label.lines_of_line held line, Label.extract, first, single]

namespace Rejection

def foundExtract (rejection : Rejection) (name : String) (line : List Char) : Extract :=
  ⟨name, 1, line, rejection.position.column, 1, '^', "found " ++ describeFound rejection.found⟩

/-- The place of the parenthesis that still waits for its partner. -/
def openedExtract (opened : Position) (name : String) (line : List Char) : Extract :=
  ⟨name, 1, line, opened.column, 1, '-', "parenthesis opened here"⟩

/-- The lines that report the rejection of a document with this name and first line. -/
def reportLines (rejection : Rejection) (name : String) (line : List Char) : List String :=
  let headline := "error[" ++ rejection.cause.code.shown ++ "]: " ++ rejection.cause.message
  let secondary := match rejection.cause with
    | .unclosedGroup opened => (openedExtract opened name line).lines
    | _ => []
  headline :: ((rejection.foundExtract name line).lines ++ secondary ++
    rejection.notes.map ("  = note: " ++ ·) ++ rejection.helps.map ("  = help: " ++ ·))

variable {rejection : Rejection} {documents : Documents} {number : Nat} {name text : String}

private theorem lines_labels (held : documents.get? number = some ⟨name, text⟩)
    (first : rejection.position.line = 1)
    (first' : ∀ opened, rejection.cause = .unclosedGroup opened → opened.line = 1) :
    (rejection.labels number).flatMap (·.lines documents) =
      (rejection.foundExtract name (firstLine text)).lines ++
        match rejection.cause with
        | .unclosedGroup opened => (openedExtract opened name (firstLine text)).lines
        | _ => [] := by
  rcases rejection with ⟨cause, found, position⟩
  have primary := Label.lines_of_first ⟨.ofCharacter position found number,
    "found " ++ describeFound found, true⟩ documents (by simpa using held)
    (by simpa using first) (by simp)
  cases cause with
  | unclosedGroup opened =>
    have secondary := Label.lines_of_first ⟨.ofCharacter opened (some '(') number,
      "parenthesis opened here", false⟩ documents (by simpa using held)
      (by simpa using first' opened rfl) (by simp)
    simp [labels, primary, secondary, foundExtract, openedExtract]
  | _ => simp [labels, primary, foundExtract]

theorem render_eq (held : documents.get? number = some ⟨name, text⟩)
    (first : rejection.position.line = 1)
    (first' : ∀ opened, rejection.cause = .unclosedGroup opened → opened.line = 1) :
    (rejection.diagnostic number).render documents false =
      printed (rejection.reportLines name (firstLine text)) := by
  have headline : (rejection.diagnostic number).headlineWords =
      "error[" ++ rejection.cause.code.shown ++ "]: " ++ rejection.cause.message := by
    apply String.toList_inj.mp
    simp [diagnostic, Diagnostic.headlineWords, Level.name]
  have quoted : (rejection.diagnostic number).labels.flatMap (·.lines documents) = _ :=
    lines_labels held first first'
  rw [Diagnostic.render_lines, Diagnostic.lines, headline, quoted]
  rfl

end Rejection

/-- A rejection stands behind a draft that the text begins with. -/
structure Behind (text : List Char) (rejection : Rejection) (draft : Draft) (rest : List Char) :
    Prop where
  spelled : text = draft.text ++ rest
  reads : Draft.Reads .blank draft.text draft
  position : rejection.position = ⟨1, draft.text.length + 1, draft.text.length⟩
  found : rejection.found = rest.head?
  opened : ∀ opened, rejection.cause = .unclosedGroup opened →
    ∃ layer enclosing around stage, draft = ⟨layer, enclosing :: around, stage⟩ ∧
      opened = Position.start.afterAll (Draft.text ⟨enclosing, around, .awaiting⟩)

theorem evaluateText_behind {text : String} {rejection : Rejection}
    (rejected : (evaluateText text).result = .error (.rejected rejection)) :
    ∃ draft rest, Behind text.toList rejection draft rest := by
  obtain ⟨draft, rest, stops, verdict⟩ := evaluateText_verdict text
  rw [rejected] at verdict
  cases verdict with
  | misfit =>
    refine ⟨draft, rest, stops.spelled, stops.reads, stops.reads.position, rfl, ?_⟩
    intro opened cause
    rcases draft with ⟨layer, _ | ⟨enclosing, around⟩, _ | operand | operand⟩ <;> cases cause
    exact ⟨layer, enclosing, around, _, rfl, rfl⟩
  | deepGroup ahead =>
    exact ⟨draft, rest, stops.spelled, stops.reads, stops.reads.position, by rw [ahead]; rfl, nofun⟩
  | @deepPower _ after ahead step =>
    have reads : Draft.Reads .blank after.text after := step.text ▸ stops.reads.concat step
    refine ⟨after, _, ?_, reads, reads.position, rfl, nofun⟩
    rw [stops.spelled, ahead, step.text, List.append_assoc]
    rfl

/-- The parenthesis that still waits for its partner is the innermost one in front of the
rejection that has none. -/
theorem Behind.parenthesis {text : String} {rejection : Rejection} {draft : Draft}
    {rest : List Char} {opened : Position} (behind : Behind text.toList rejection draft rest)
    (cause : rejection.cause = .unclosedGroup opened) :
    ∃ before others outer, firstLine text = before ++ ('(' :: others).takeWhile (· != '\n') ∧
      opened = ⟨1, before.length + 1, before.length⟩ ∧
      unmatched draft.text = before.length :: outer := by
  have reads := behind.reads
  have spelled := behind.spelled
  have matched := Draft.unmatched_text reads
  obtain ⟨layer, enclosing, around, stage, rfl, rfl⟩ := behind.opened opened cause
  have place := Draft.position_of_opened reads
  rw [Draft.text_of_opened] at reads spelled
  obtain ⟨_, front, _⟩ := reads.split
  rw [List.append_assoc, List.cons_append] at spelled
  exact ⟨_, _, _, front.firstLine spelled, place, matched⟩

/-- Without colours, a rejection is reported with its line in full and a mark in the column of
what was found. A group that was left open has a second mark, at its parenthesis. -/
theorem rejection_report (text name : String) (rejection : Rejection) (documents : Documents)
    (number : Nat) (rejected : (evaluateText text).result = .error (.rejected rejection))
    (held : documents.get? number = some ⟨name, text⟩) :
    (rejection.diagnostic number).render documents false =
        printed (rejection.reportLines name (firstLine text)) ∧
      (∃ place, (rejection.foundExtract name (firstLine text)).PointsAt rejection.found place) ∧
      ∀ opened, rejection.cause = .unclosedGroup opened →
        (∃ place,
          (Rejection.openedExtract opened name (firstLine text)).PointsAt (some '(') place) ∧
        ∃ outer, unmatched ((firstLine text).take (rejection.position.column - 1)) =
          (opened.column - 1) :: outer := by
  obtain ⟨draft, rest, behind⟩ := evaluateText_behind rejected
  have line := behind.reads.firstLine behind.spelled
  have position := behind.position
  refine ⟨Rejection.render_eq held (by rw [position]) ?_, ?_, ?_⟩
  · intro opened cause
    obtain ⟨_, _, _, _, rfl, _⟩ := behind.parenthesis cause
    rfl
  · have visible : '^' ≠ ' ' ∧ '^' ≠ '|' := by decide
    rw [behind.found]
    exact ⟨_, Extract.pointsAt rest line (by rw [Rejection.foundExtract, position]) rfl visible⟩
  · intro opened cause
    obtain ⟨before, others, outer, quotes, rfl, innermost⟩ := behind.parenthesis cause
    have front : (firstLine text).take (rejection.position.column - 1) = draft.text := by
      rw [line, position]
      exact List.take_left
    have visible : '-' ≠ ' ' ∧ '-' ≠ '|' := by decide
    refine ⟨⟨_, Extract.pointsAt ('(' :: others) quotes rfl rfl visible⟩, outer, ?_⟩
    rw [front, innermost]
    rfl

/-- What does not fit is no ASCII, and behind the line there is a parenthesis too. -/
theorem rejection_report_unclosedGroup :
    (evaluateText "1+(2-(3é\n))").result =
        .error (.rejected ⟨.unclosedGroup ⟨1, 6, 5⟩, some 'é', ⟨1, 8, 7⟩⟩) ∧
      (Documents.add {} ⟨"in", "1+(2-(3é\n))"⟩).1.get? 0 = some ⟨"in", "1+(2-(3é\n))"⟩ ∧
      (Rejection.diagnostic ⟨.unclosedGroup ⟨1, 6, 5⟩, some 'é', ⟨1, 8, 7⟩⟩ 0).render
        (Documents.add {} ⟨"in", "1+(2-(3é\n))"⟩).1 false = printed [
          "error[EP003]: expected ')' to close parenthesis",
          " --> in:1:8",
          "   |",
          " 1 | 1+(2-(3é",
          "   |        ^ found 'é'",
          " --> in:1:6",
          "   |",
          " 1 | 1+(2-(3é",
          "   |      - parenthesis opened here"] ∧
      ∃ outer, unmatched ("1+(2-(3é".toList.take 7) = 5 :: outer := by
  have rejected : (evaluateText "1+(2-(3é\n))").result =
      .error (.rejected ⟨.unclosedGroup ⟨1, 6, 5⟩, some 'é', ⟨1, 8, 7⟩⟩) := by
    cbv
  have held : (Documents.add {} ⟨"in", "1+(2-(3é\n))"⟩).1.get? 0 =
      some ⟨"in", "1+(2-(3é\n))"⟩ := rfl
  have line : firstLine "1+(2-(3é\n))" = "1+(2-(3é".toList := by
    cbv
  obtain ⟨report, -, opened⟩ := rejection_report _ _ _ _ 0 rejected held
  obtain ⟨-, innermost⟩ := opened _ rfl
  rw [line] at report innermost
  refine ⟨rejected, held, report.trans (congrArg printed ?_), innermost⟩
  rfl

end Reckon
