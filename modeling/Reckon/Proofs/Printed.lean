import Reckon.Diagnostic.Render

namespace Reckon

/-- Lines as they are printed, each with its line feed. -/
def printed (lines : List String) : String := String.join (lines.map (· ++ "\n"))

theorem printed_append (lines more : List String) :
    printed (lines ++ more) = printed lines ++ printed more := by
  simp [printed]

private theorem printed_cons (line : String) (lines : List String) :
    printed (line :: lines) = line ++ "\n" ++ printed lines := by
  simp [printed]

/-- A line of a document as a report quotes it, with a row of marks below some of its columns. -/
structure Extract where
  name : String
  number : Nat
  line : List Char
  column : Nat
  width : Nat
  mark : Char
  message : String

namespace Extract

def arrow (extract : Extract) : String :=
  " --> " ++ extract.name ++ ":" ++ toString extract.number ++ ":" ++ toString extract.column

/-- Where there is no number, the margin is as wide as if there were one. -/
def margin (extract : Extract) : String := " " ++ spaces (toString extract.number).length ++ " |"

def gutter (extract : Extract) : String := " " ++ toString extract.number ++ " | "

def quoted (extract : Extract) : String := extract.gutter ++ String.ofList extract.line

def marker (extract : Extract) : String :=
  extract.margin ++ " " ++ spaces (extract.column - 1) ++
    String.ofList (List.replicate extract.width extract.mark) ++ " " ++ extract.message

def lines (extract : Extract) : List String :=
  [extract.arrow, extract.margin, extract.quoted, extract.marker]

def place (extract : Extract) : Nat := extract.gutter.toList.length + (extract.column - 1)

/-- The row below the quoted line has so many marks from this place on. There is none in front
of them, and a blank behind them. -/
structure Underlines (extract : Extract) (place count : Nat) : Prop where
  unmarked : extract.mark ∉ extract.marker.toList.take place
  marked : (extract.marker.toList.drop place).take count = List.replicate count extract.mark
  blank : extract.marker.toList[place + count]? = some ' '

def indent (extract : Extract) : List Char :=
  (extract.margin ++ " " ++ spaces (extract.column - 1)).toList

private theorem length_indent (extract : Extract) : extract.indent.length = extract.place := by
  have blank : " ".length = 1 := rfl
  have bar : " |".length = 2 := rfl
  have bar' : " | ".length = 3 := rfl
  simp only [indent, place, margin, gutter, spaces, String.length_toList, String.length_append,
    String.length_ofList, List.length_replicate, blank, bar, bar']

private theorem marker_indent (extract : Extract) : extract.marker.toList = extract.indent ++
    (List.replicate extract.width extract.mark ++ ' ' :: extract.message.toList) := by
  simp [marker, indent]

private theorem mem_indent {extract : Extract} {character : Char}
    (member : character ∈ extract.indent) : character = ' ' ∨ character = '|' := by
  have parts : character = ' ' ∨ character = '|' ∨ character = ' ' ∨
      ¬extract.column - 1 = 0 ∧ character = ' ' := by
    simpa [indent, margin, spaces] using member
  rcases parts with blank | bar | blank | ⟨-, blank⟩
  · exact .inl blank
  · exact .inr bar
  · exact .inl blank
  · exact .inl blank

theorem underlines (extract : Extract) (visible : extract.mark ≠ ' ' ∧ extract.mark ≠ '|') :
    extract.Underlines extract.place extract.width where
  unmarked := by
    rw [marker_indent, ← length_indent, List.take_left]
    intro member
    rcases mem_indent member with blank | bar
    · exact visible.1 blank
    · exact visible.2 bar
  marked := by
    rw [marker_indent, ← length_indent, List.drop_left]
    exact List.take_left' List.length_replicate
  blank := by
    rw [marker_indent, ← length_indent, List.getElem?_append_right (Nat.le_add_right _ _),
      Nat.add_sub_cancel_left, List.getElem?_append_right (Nat.le_of_eq List.length_replicate),
      List.length_replicate, Nat.sub_self]
    rfl

theorem quoted_drop (extract : Extract) :
    extract.quoted.toList.drop extract.place = extract.line.drop (extract.column - 1) := by
  rw [quoted, place, String.toList_append, String.toList_ofList, List.drop_length_add_append]

end Extract

namespace Label

def extract (label : Label) (name : String) (line : List Char) : Extract :=
  ⟨name, label.span.start.line, line, label.span.start.column, label.span.width,
    if label.primary then '^' else '-', label.message⟩

/-- The lines that a label is printed in. Of a line that its document does not have there is
only the place. -/
def lines (label : Label) (documents : Documents) : List String :=
  match documents.get? label.span.document with
  | none => []
  | some document =>
    match document.line? label.span.start.line with
    | none => [(label.extract document.name []).arrow]
    | some line => (label.extract document.name line.toList).lines

private theorem paint_arrow (label : Label) (document : Document) (line : List Char) :
    Mark.paint false (label.arrow document) =
      printed [(label.extract document.name line).arrow] := by
  apply String.toList_inj.mp
  simp [arrow, extract, Extract.arrow, Mark.paint_cons, Mark.paint_nil, Mark.painted, printed,
    Position.shown, toString_words]

private theorem paint_snippet (label : Label) (level : Level) (name line : String) :
    Mark.paint false (label.snippet level line) =
      printed (label.extract name line.toList).lines.tail := by
  apply String.toList_inj.mp
  simp [snippet, underline, extract, Extract.lines, Extract.quoted, Extract.gutter,
    Extract.marker, Extract.margin, Mark.paint_cons, Mark.paint_nil, Mark.painted, printed,
    toString_words]

private theorem paint_lines (label : Label) (level : Level) (documents : Documents) :
    Mark.paint false (label.marks level documents) = printed (label.lines documents) := by
  unfold marks lines
  cases documents.get? label.span.document with
  | none => rfl
  | some document =>
    dsimp only
    cases document.line? label.span.start.line with
    | none => rw [List.append_nil, label.paint_arrow document []]
    | some line =>
      rw [Mark.paint_append, label.paint_arrow document line.toList,
        label.paint_snippet level document.name, ← printed_append]
      rfl

theorem lines_of_line {label : Label} {documents : Documents} {document : Document}
    {line : List Char} (held : documents.get? label.span.document = some document)
    (quoted : document.line? label.span.start.line = some (String.ofList line)) :
    label.lines documents = (label.extract document.name line).lines := by
  simp only [lines, held, quoted, String.toList_ofList]

end Label

namespace Diagnostic

def headlineWords (diagnostic : Diagnostic) : String :=
  diagnostic.level.name ++ diagnostic.code.elim "" (fun code => "[" ++ code.shown ++ "]") ++ ": " ++
    diagnostic.message

def lines (diagnostic : Diagnostic) (documents : Documents) : List String :=
  diagnostic.headlineWords :: (diagnostic.labels.flatMap (·.lines documents) ++
    diagnostic.notes.map ("  = note: " ++ ·) ++ diagnostic.helps.map ("  = help: " ++ ·))

private theorem paint_headline (diagnostic : Diagnostic) :
    Mark.paint false diagnostic.headline = printed [diagnostic.headlineWords] := by
  simp [headline, headlineWords, Mark.paint_cons, Mark.paint_nil, Mark.painted, printed,
    toString_words, String.append_assoc]

private theorem paint_labels (labels : List Label) (level : Level) (documents : Documents) :
    Mark.paint false (labels.flatMap (·.marks level documents)) =
      printed (labels.flatMap (·.lines documents)) := by
  induction labels with
  | nil => rfl
  | cons label labels ih =>
    rw [List.flatMap_cons, List.flatMap_cons, Mark.paint_append, printed_append, ih,
      Label.paint_lines]

private theorem paint_remarks (style : Style) (name : String) (texts : List String) :
    Mark.paint false (texts.flatMap (remark style name)) =
      printed (texts.map fun text => "  = " ++ name ++ ": " ++ text) := by
  induction texts with
  | nil => rfl
  | cons text texts ih =>
    rw [List.flatMap_cons, Mark.paint_append, ih, List.map_cons, printed_cons]
    simp [remark, Mark.paint_cons, Mark.paint_nil, Mark.painted, toString_words,
      String.append_assoc]

theorem render_lines (diagnostic : Diagnostic) (documents : Documents) :
    diagnostic.render documents false = printed (diagnostic.lines documents) := by
  rw [render, marks, Mark.paint_append, Mark.paint_append, Mark.paint_append, paint_headline,
    paint_labels, paint_remarks, paint_remarks, ← printed_append, ← printed_append,
    ← printed_append]
  rfl

end Diagnostic

end Reckon
