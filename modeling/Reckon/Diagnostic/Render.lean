import Reckon.Diagnostic.Basic
import Reckon.Text.Document

namespace Reckon

def spaces (width : Nat) : String := String.ofList (List.replicate width ' ')

namespace Label

/-- A primary label is underlined in the colour of the diagnostic. -/
def style (label : Label) (level : Level) : Style :=
  if label.primary then level.style else .blue

def underline (label : Label) : String :=
  String.ofList (List.replicate label.span.width (if label.primary then '^' else '-'))

def arrow (label : Label) (document : Document) : List Mark :=
  [.text " ", .style .blue, .text "-->", .reset,
    .text s!" {document.name}:{label.span.start.shown}\n"]

/-- The line the label points into, and below it the underline and the message.
The margin is as wide as the line number. -/
def snippet (label : Label) (level : Level) (line : String) : List Mark :=
  let number := toString label.span.start.line
  let margin := spaces number.length
  [.text s!" {margin} ", .style .blue, .text "|", .reset, .text "\n",
    .text " ", .style .blue, .text number, .reset, .text " |", .reset, .text s!" {line}\n",
    .text s!" {margin} ", .style .blue, .text "|", .reset,
    .text (" " ++ spaces (label.span.start.column - 1)), .style (label.style level),
    .text s!"{label.underline} {label.message}", .reset, .text "\n"]

/-- A label into no document is left out; one to a line that its document does not
have keeps only the arrow. -/
def marks (label : Label) (level : Level) (documents : Documents) : List Mark :=
  match documents.get? label.span.document with
  | none => []
  | some document =>
    label.arrow document ++
      match document.line? label.span.start.line with
      | none => []
      | some line => label.snippet level line

end Label

namespace Diagnostic

def headline (diagnostic : Diagnostic) : List Mark :=
  let code := diagnostic.code.elim "" fun code => s!"[{code.shown}]"
  [.style diagnostic.level.style, .text (diagnostic.level.name ++ code), .reset,
    .style .plain, .text s!": {diagnostic.message}", .reset, .text "\n"]

/-- One line below the labels, such as a note. -/
def remark (style : Style) (name text : String) : List Mark :=
  [.text "  = ", .style style, .text name, .reset, .text s!": {text}\n"]

def marks (diagnostic : Diagnostic) (documents : Documents) : List Mark :=
  diagnostic.headline ++
    diagnostic.labels.flatMap (·.marks diagnostic.level documents) ++
    diagnostic.notes.flatMap (remark .plain "note") ++
    diagnostic.helps.flatMap (remark Level.help.style "help")

def render (diagnostic : Diagnostic) (documents : Documents) (colours : Bool) : String :=
  Mark.paint colours (diagnostic.marks documents)

end Diagnostic

end Reckon
