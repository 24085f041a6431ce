import Reckon.Value

namespace Reckon

inductive Sign where
  | plus
  | minus
deriving DecidableEq, Repr

namespace Sign

def character : Sign → Char
  | plus => '+'
  | minus => '-'

def ofCharacter? : Char → Option Sign
  | '+' => some plus
  | '-' => some minus
  | _ => none

def apply : Sign → (total term : Value) → Value
  | plus, total, term => total + term
  | minus, total, term => total - term

end Sign

end Reckon
