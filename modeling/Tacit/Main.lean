import Tacit.Command.Run

/-!
# The program

Runs the command on the arguments of the process.
-/

namespace Tacit

/-- Writes bytes to a stream. -/
def writeBytes (out : IO.FS.Stream) (b : Bytes) : IO Unit := do
  out.write (ByteArray.mk b.toArray)
  out.flush

end Tacit

/-- The command. -/
def main (args : List String) : IO UInt32 := do
  let exit := Tacit.Command.process (args.map Tacit.Bytes.ofString)
  Tacit.writeBytes (← IO.getStdout) exit.stdout
  Tacit.writeBytes (← IO.getStderr) exit.stderr
  return exit.code.toUInt32
