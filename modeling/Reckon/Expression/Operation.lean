import Reckon.Expression.Script

namespace Reckon

/-- The rules of the grammar. Each of them can be followed from any scanner. -/
inductive Rule where
  | sum
  | signedTerms
  | term
  | exponent
  | operand
  | numeral
deriving DecidableEq, Repr

/-- Signed terms that follow nothing are added to 0. -/
def Rule.call : Rule → Call
  | sum => .sum
  | signedTerms => .signedTerms 0
  | term => .term
  | exponent => .exponent
  | operand => .operand
  | numeral => .numeral

def Rule.scan {σ : Type} [CharStream σ] (rule : Rule) : Scan σ Value := rule.call.scan

/-- Asking for a rejection of the lookahead is no failure of its own. -/
inductive Operation where
  | consume (expected : Char)
  | descend
  | ascend
  | rejection (cause : Cause)
  | follow (rule : Rule)
deriving DecidableEq, Repr

/-- What an operation that succeeds has to tell. -/
inductive Reply where
  | done
  | rejection (rejection : Rejection)
  | value (value : Value)
deriving DecidableEq, Repr

def Operation.perform {σ : Type} [CharStream σ] : Operation → Scan σ Reply
  | consume expected => do
    Scanner.consume expected
    return .done
  | descend => do
    Scanner.descend
    return .done
  | ascend => do
    modify Scanner.ascend
    return .done
  | rejection cause => return .rejection ((← get).rejection cause)
  | follow rule => return .value (← rule.scan)

/-- The scanner after all of the operations, those that failed included. -/
def Scanner.after {σ : Type} [CharStream σ] (scanner : Scanner σ) (operations : List Operation) :
    Scanner σ :=
  operations.foldl (fun scanner operation => scannerAfter (operation.perform scanner)) scanner

end Reckon
