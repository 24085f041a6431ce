namespace Reckon

/-- What kind of failure stopped a read. An interrupted read may be tried again. -/
inductive ReadErrorKind where
  | interrupted
  | notFound
  | permissionDenied
  | unexpectedEnd
  | invalidData
  | brokenPipe
  | isDirectory
  | notDirectory
  | invalidInput
  | invalidName
  | other
deriving DecidableEq, Repr

/-- The message is the system's own. -/
structure ReadError where
  kind : ReadErrorKind
  message : String
deriving DecidableEq, Repr

namespace ReadError

def notFound : ReadError := ⟨.notFound, "No such file or directory (os error 2)"⟩

def notDirectory : ReadError := ⟨.notDirectory, "Not a directory (os error 20)"⟩

def isDirectory : ReadError := ⟨.isDirectory, "Is a directory (os error 21)"⟩

def nameTooLong : ReadError := ⟨.invalidName, "File name too long (os error 36)"⟩

/-- A path is handed over with a NUL at its end, so none may stand inside it. -/
def nulInName : ReadError := ⟨.invalidInput, "file name contained an unexpected NUL byte"⟩

end ReadError

end Reckon
