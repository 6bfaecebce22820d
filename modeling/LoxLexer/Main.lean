import LoxLexer.Command.Run

/-!
# The program

Reads the arguments, the settings and the named script or the standard input, and writes what
`LoxLexer.Command.run` says. The log has no clock.
-/
namespace LoxLexer

def ReadFault.ofError : IO.Error → ReadFault
  | .noFileOrDirectory .. => .notFound
  | .inappropriateType _ 21 _ => .isDirectory
  | .inappropriateType .. => .notADirectory
  | .invalidArgument _ 36 _ => .nameTooLong
  | e => .other e.toString

/-- The bytes of a file, or why they are not there. -/
def readScript (path : String) : IO (Except ReadFault ByteArray) := do
  try
    return .ok (← IO.FS.readBinFile path)
  catch e =>
    return .error (.ofError e)

def writeOutput (o : Output LogLine) : IO Unit := do
  IO.print o.out
  IO.eprint o.err

end LoxLexer

open LoxLexer in
def main (arguments : List String) : IO UInt32 := do
  let settings : Settings := ⟨← IO.getEnv "RUST_LOG", (← IO.getEnv "TERM").getD ""⟩
  let (bytes, input) ←
    match Options.read arguments with
    | .ok (.scan ⟨some path, _, _⟩) => pure (← readScript path, ByteArray.empty)
    | .ok (.scan ⟨none, _, _⟩) => pure (.error .notFound, ← (← IO.getStdin).readBinToEnd)
    | _ => pure (.error .notFound, ByteArray.empty)
  let transcript := Command.run settings (fun _ => bytes) input arguments
  transcript.outputs.forM writeOutput
  return transcript.exit.toUInt32
