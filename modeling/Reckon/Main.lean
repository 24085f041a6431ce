import Reckon.CommandLine.Run

namespace Reckon

def ReadError.ofSystem : IO.Error → ReadError
  | .noFileOrDirectory .. => .notFound
  | .inappropriateType _ 21 _ => .isDirectory
  | .inappropriateType .. => .notDirectory
  | .invalidArgument _ 36 _ => .nameTooLong
  | .permissionDenied _ code details => ⟨.permissionDenied, s!"{details} (os error {code})"⟩
  | .interrupted _ code details => ⟨.interrupted, s!"{details} (os error {code})"⟩
  | error => ⟨.other, toString error⟩

/-- Fetches bytes until a line is complete or nothing more comes. -/
partial def readLine (stream : IO.FS.Stream) (bytes : ByteArray) : IO (List Supply) := do
  match ← (stream.read 4096).toBaseIO with
  | .error error => return [.bytes bytes.toList, .failure (.ofSystem error)]
  | .ok more =>
    if more.isEmpty then return [.bytes bytes.toList]
    else if more.toList.contains 10 then return [.bytes (bytes ++ more).toList]
    else readLine stream (bytes ++ more)

def openRequested (path : String) : IO (Except ReadError ByteReader) := do
  match ← (IO.FS.readBinFile path).toBaseIO with
  | .ok bytes => return .ok (.ofBytes bytes.toList Directory.bufferSize)
  | .error error => return .error (.ofSystem error)

end Reckon

open Reckon CommandLine in
def main (arguments : List String) : IO UInt32 := do
  let mut file : Except ReadError ByteReader := .error .notFound
  let mut supplies : List Supply := []
  if let .request request := invocation arguments then
    match request.channel with
    | .argument _ => pure ()
    | .file path => file ← openRequested path
    | .standardInput => supplies ← readLine (← IO.getStdin) .empty
  let opened := file
  let outcome := run arguments
    { standardInput := .ofSupplies supplies
      openFile := fun _ => opened
      terminal := ← (← IO.getStderr).isTty
      stamp := s!"{← IO.monoMsNow}ms" }
  IO.print outcome.output
  IO.eprint outcome.errors
  return outcome.status.toUInt32
