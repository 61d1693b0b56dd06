import RubyTree.Program

/-!
The command line: reads what a request needs, and prints how the program ends.
-/

namespace RubyTree

def faultOfError : IO.Error → ReadFault
  | .noFileOrDirectory .. => .missing
  | .inappropriateType .. => .directory
  | .permissionDenied .. => .denied
  | error => .other (toString error)

def attempt (action : IO ByteArray) : IO (Except ReadFault ByteArray) := do
  match ← action.toBaseIO with
  | .ok bytes => return .ok bytes
  | .error error => return .error (faultOfError error)

def readFile (path : String) : IO (Except ReadFault ByteArray) := attempt (IO.FS.readBinFile path)

partial def readAll (stream : IO.FS.Stream) (read : ByteArray) : IO ByteArray := do
  let chunk ← stream.read 65536
  if chunk.isEmpty then return read else readAll stream (read ++ chunk)

/-- A world in which only the files and streams that the request names can be read. The input is left
alone if the config already puts an end to the program. -/
def worldFor (request : Request) : IO World := do
  let config ← match request.config with
    | some path => readFile path
    | none => pure (.error .missing)
  let configOnly : World := ⟨fun _ => config, .error .missing⟩
  match request.baseConfig configOnly with
  | .error _ => return configOnly
  | .ok _ =>
    let stdin ← IO.getStdin
    let input ← match request.input with
      | none | some "-" => attempt (readAll stdin .empty)
      | some path => readFile path
    return ⟨fun path => if some path == request.input then input else config, input⟩

end RubyTree

open RubyTree in
def main (arguments : List String) : IO UInt32 := do
  let world ← match CommandLine.parse arguments with
    | .render request => worldFor request
    | _ => pure ⟨fun _ => .error .missing, .error .missing⟩
  let ending := Program.run world arguments
  (← IO.getStdout).putStr ending.stdout
  (← IO.getStderr).putStr ending.stderr
  return ending.exitCode
