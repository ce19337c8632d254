import Gamebook.Cli.Run

/-!
# The program

Runs the commands in a terminal.
-/

namespace Gamebook

namespace Cli

/-- The fault that an error of the system stands for. -/
def FileFault.ofError : IO.Error → FileFault
  | .noFileOrDirectory _ code reason => .refused reason code.toNat
  | .inappropriateType _ code reason => .refused reason code.toNat
  | .permissionDenied _ code reason => .refused reason code.toNat
  | .invalidArgument _ code reason => .refused reason code.toNat
  | .resourceExhausted _ code reason => .refused reason code.toNat
  | .otherError code reason => .refused reason code.toNat
  | e => .refused e.toString 0

/-- Runs an action on a file. -/
def attemptOn {α : Type} (action : IO α) : IO (Except FileFault α) := do
  try return .ok (← action)
  catch e => return .error (FileFault.ofError e)

instance : Console IO where
  print text := do
    let out ← IO.getStdout
    out.putStr text
    out.flush
  complain text := do
    (← IO.getStderr).putStr text
  nextLine := do
    let line ← (← IO.getStdin).getLine
    return if line.isEmpty then none else some line
  readFile path := do
    let bytes ← attemptOn (IO.FS.withFile path .read fun handle => handle.readBinToEnd)
    return bytes.bind decodeText
  writeFile path text := attemptOn (IO.FS.writeFile path text)

/-- Takes turns until the game ends. -/
partial def playOn (g : Game) : IO Unit := do
  match ← g.turn with
  | some g => playOn g
  | none => return ()

end Cli

end Gamebook

/-- Runs the program on the arguments of the command line. -/
def main (arguments : List String) : IO UInt32 := do
  return (← Gamebook.Cli.execute Gamebook.Cli.playOn arguments).toUInt32
