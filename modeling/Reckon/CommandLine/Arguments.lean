namespace Reckon

namespace CommandLine

inductive Command where
  | eval
  | check
deriving DecidableEq, Repr

def Command.ofName? : String → Option Command
  | "eval" => some .eval
  | "check" => some .check
  | _ => none

/-- Where the expression comes from. -/
inductive Channel where
  | argument (expression : String)
  | file (path : String)
  | standardInput
deriving DecidableEq, Repr

structure Request where
  command : Command
  channel : Channel
  verbosity : Nat
  plain : Bool
deriving DecidableEq, Repr

/-- Arguments ask for an evaluation, for one of two texts, or for nothing there is. -/
inductive Invocation where
  | request (request : Request)
  | version
  | help
  | misuse
deriving DecidableEq, Repr

structure Flags where
  verbosity : Nat := 0
  plain : Bool := false

namespace Flags

def raised (flags : Flags) : Flags := { flags with verbosity := flags.verbosity + 1 }

/-- Colours can be refused only once on each side of the command. -/
def withoutColours (flags : Flags) : Except Invocation Flags :=
  if flags.plain then throw .misuse else return { flags with plain := true }

end Flags

/-- A dash alone is a name; an argument with more after the dash holds options. -/
def isOption (argument : String) : Bool :=
  match argument.toList with
  | '-' :: _ :: _ => true
  | _ => false

/-- A long option gives its name, and the value after its first equals sign. -/
def splitLong (option : List Char) : String × Option String :=
  match option.span (· ≠ '=') with
  | (name, []) => (String.ofList name, none)
  | (name, _ :: value) => (String.ofList name, some (String.ofList value))

def outerLetters (flags : Flags) : (letters : List Char) → Except Invocation Flags
  | [] => return flags
  | 'v' :: letters => outerLetters flags.raised letters
  | 'V' :: _ => throw .version
  | 'h' :: _ => throw .help
  | _ => throw .misuse

def outerOption (flags : Flags) (argument : String) : Except Invocation Flags :=
  match argument.toList with
  | '-' :: '-' :: option =>
    match splitLong option with
    | ("verbose", none) => return flags.raised
    | ("no-color", none) => flags.withoutColours
    | ("version", none) => throw .version
    | ("help", none) => throw .help
    | _ => throw .misuse
  | letters => outerLetters flags (letters.drop 1)

structure Selection where
  flags : Flags := {}
  expression : Option String := none
  path : Option String := none

namespace Selection

def withExpression (selection : Selection) (expression : String) : Except Invocation Selection :=
  if selection.expression.isSome then throw .misuse
  else return { selection with expression := some expression }

def withPath (selection : Selection) (path : String) : Except Invocation Selection :=
  if selection.path.isSome || path.isEmpty then throw .misuse
  else return { selection with path := some path }

/-- The letters of a short argument after the command. All that follows an `f` is
its path; with nothing left the path is the next argument, and the answer says so. -/
def letters (selection : Selection) : (letters : List Char) → Except Invocation (Selection × Bool)
  | [] => return (selection, false)
  | 'v' :: rest => { selection with flags := selection.flags.raised }.letters rest
  | ['f'] => return (selection, true)
  | 'f' :: '=' :: path => return (← selection.withPath (String.ofList path), false)
  | 'f' :: path => return (← selection.withPath (String.ofList path), false)
  | 'h' :: _ => throw .help
  | _ => throw .misuse

def option (selection : Selection) (argument : String) : Except Invocation (Selection × Bool) :=
  match argument.toList with
  | '-' :: '-' :: option =>
    match splitLong option with
    | ("verbose", none) => return ({ selection with flags := selection.flags.raised }, false)
    | ("no-color", none) =>
      return ({ selection with flags := ← selection.flags.withoutColours }, false)
    | ("file", none) => return (selection, true)
    | ("file", some path) => return (← selection.withPath path, false)
    | ("help", none) => throw .help
    | _ => throw .misuse
  | letters => selection.letters (letters.drop 1)

/-- An expression and a file exclude each other. A verbosity that is given after the
command replaces the one in front of it. -/
def invocation (selection : Selection) (command : Command) (outer : Flags) : Invocation :=
  let verbosity :=
    if selection.flags.verbosity = 0 then outer.verbosity else selection.flags.verbosity
  let plain := outer.plain || selection.flags.plain
  match selection.expression, selection.path with
  | some _, some _ => .misuse
  | some expression, none => .request ⟨command, .argument expression, verbosity, plain⟩
  | none, some path => .request ⟨command, .file path, verbosity, plain⟩
  | none, none => .request ⟨command, .standardInput, verbosity, plain⟩

/-- Reads what follows the command. After two dashes nothing is an option. -/
def complete (selection : Selection) : (arguments : List String) → Except Invocation Selection
  | [] => return selection
  | "--" :: expressions => expressions.foldlM withExpression selection
  | argument :: arguments =>
    if isOption argument then do
      let (selection, awaitsPath) ← selection.option argument
      if awaitsPath then
        match arguments with
        | [] => throw .misuse
        | path :: arguments =>
          if isOption path then throw .misuse else (← selection.withPath path).complete arguments
      else selection.complete arguments
    else do (← selection.withExpression argument).complete arguments

end Selection

/-- Commands have a help text in common. -/
def helpOn : (names : List String) → Invocation
  | [] => .help
  | [name] => if name = "help" ∨ (Command.ofName? name).isSome then .help else .misuse
  | _ => .misuse

def invocationAfter (flags : Flags) : (arguments : List String) → Invocation
  | [] => .misuse
  | argument :: arguments =>
    if isOption argument then
      match outerOption flags argument with
      | .ok flags => invocationAfter flags arguments
      | .error invocation => invocation
    else if argument = "help" then helpOn arguments
    else
      match Command.ofName? argument with
      | none => .misuse
      | some command =>
        match Selection.complete {} arguments with
        | .ok selection => selection.invocation command flags
        | .error invocation => invocation

def invocation (arguments : List String) : Invocation := invocationAfter {} arguments

end CommandLine

end Reckon
