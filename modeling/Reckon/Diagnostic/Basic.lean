import Reckon.Diagnostic.Style
import Reckon.Text.Span

namespace Reckon

inductive Level where
  | error
  | note
  | help
deriving DecidableEq, Repr

namespace Level

def name : Level → String
  | error => "error"
  | note => "note"
  | help => "help"

def style : Level → Style
  | error => .red
  | note => .cyan
  | help => .green

end Level

/-- Errors are numbered within a category. -/
structure ErrorCode where
  category : Char
  number : Nat
deriving DecidableEq, Repr

def ErrorCode.shown (code : ErrorCode) : String :=
  let digits := Nat.toDigits 10 code.number
  String.ofList ('E' :: code.category :: (List.replicate (3 - digits.length) '0' ++ digits))

/-- A primary label marks what is wrong, a secondary one what it has to do with. -/
structure Label where
  span : Span
  message : String
  primary : Bool
deriving DecidableEq, Repr

structure Diagnostic where
  level : Level
  code : Option ErrorCode
  message : String
  labels : List Label
  notes : List String
  helps : List String
deriving DecidableEq, Repr

end Reckon
