/-! Documents are the named texts that diagnostics quote. They are numbered in
the order in which they were added. -/

namespace Reckon

structure Document where
  name : String
  text : String
deriving DecidableEq, Repr

/-- The line of `text` that follows `skipped` line feeds, without its own. -/
def lineAfter : (skipped : Nat) → (text : List Char) → Option (List Char)
  | 0, text => some (text.takeWhile (· ≠ '\n'))
  | skipped + 1, text =>
    match text.dropWhile (· ≠ '\n') with
    | [] => none
    | _ :: rest => lineAfter skipped rest

/-- Lines are numbered from 1. Only a line feed ends a line, and the text after
the last one is a line too, even when it is empty. -/
def Document.line? (document : Document) : (number : Nat) → Option String
  | 0 => none
  | skipped + 1 => (lineAfter skipped document.text.toList).map String.ofList

structure Documents where
  entries : Array Document := #[]

namespace Documents

/-- The store with one more document, and the number that it got. -/
def add (documents : Documents) (document : Document) : Documents × Nat :=
  (⟨documents.entries.push document⟩, documents.entries.size)

def get? (documents : Documents) (number : Nat) : Option Document :=
  documents.entries[number]?

end Documents

end Reckon
