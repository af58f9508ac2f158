import Backtrack.CommandLine

/-!
The program: reads the arguments and the input, and writes what the command line
answers.
-/

namespace Backtrack

namespace CommandLine

/-- Text must be valid UTF-8. -/
def decode (bytes : ByteArray) : Except ReadFailure String :=
  match String.fromUTF8? bytes with
  | some text => .ok text
  | none => .error .notText

def failureOf : IO.Error → ReadFailure
  | .permissionDenied .. => .permissionDenied
  | .inappropriateType .. => .isADirectory
  | _ => .notFound

def readInput (path : Option String) : IO (Except ReadFailure String) := do
  match path with
  | none =>
    let stdin ← IO.getStdin
    return decode (← stdin.readBinToEnd)
  | some path =>
    try
      return decode (← IO.FS.readBinFile path)
    catch e =>
      return .error (failureOf e)

end CommandLine

end Backtrack

open Backtrack in
def main (args : List String) : IO UInt32 := do
  let text ← match CommandLine.Request.ofArguments args with
    | .parse o => CommandLine.readInput o.path
    | _ => pure (.ok "")
  let output := CommandLine.run args (fun _ => text)
  IO.print output.stdout
  IO.eprint output.stderr
  return UInt32.ofNat output.code
