namespace Reckon

inductive Style where
  | red
  | cyan
  | green
  | blue
  | plain
deriving DecidableEq, Repr

/-- The terminal sequence that turns a style on. All styles are bold. -/
def Style.sequence : Style → String
  | red => "\x1b[1;31m"
  | cyan => "\x1b[1;36m"
  | green => "\x1b[1;32m"
  | blue => "\x1b[1;34m"
  | plain => "\x1b[1m"

inductive Mark where
  | text (text : String)
  | style (style : Style)
  | reset
deriving DecidableEq, Repr

namespace Mark

/-- How a mark appears; without colours a change of style leaves nothing. -/
def painted (colours : Bool) : Mark → String
  | text words => words
  | style chosen => if colours then chosen.sequence else ""
  | reset => if colours then "\x1b[0m" else ""

def paint (colours : Bool) (marks : List Mark) : String :=
  String.join (marks.map (painted colours))

theorem paint_nil (colours : Bool) : paint colours [] = "" := rfl

theorem paint_cons (colours : Bool) (mark : Mark) (marks : List Mark) :
    paint colours (mark :: marks) = mark.painted colours ++ paint colours marks := by
  simp [paint]

theorem paint_append (colours : Bool) (marks more : List Mark) :
    paint colours (marks ++ more) = paint colours marks ++ paint colours more := by
  simp [paint]

end Mark

end Reckon
