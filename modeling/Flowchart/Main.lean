import Flowchart.Collatz.CommandLine

/-!
# The program

Searches for the longest Collatz chain.  A search driven from the terminal prompts for
each line before it reads it; everything else is written at once.
-/

namespace Flowchart
namespace Collatz

/-- Drives an instance by the lines of standard input, and gives its last state. -/
partial def converse (m : Machine Unit Search) (input output : IO.FS.Stream)
    (i : Instance Unit Search) : IO (Instance Unit Search) := do
  output.putStr (Shell.banner m i)
  output.flush
  let line ← input.getLine
  if line.isEmpty then
    output.putStr "\n"
    return i
  let (i, written, flow) := Shell.answer m line i
  output.putStr written
  match flow with
  | .quit => return i
  | .more => converse m input output i

def write (result : Output) : IO UInt32 := do
  (← IO.getStdout).putStr result.stdout
  (← IO.getStderr).putStr result.stderr
  return result.exit

def program (arguments : List String) : IO UInt32 := do
  match Options.ofArguments arguments, blueprint.build with
  | .ok { target, diagram := false, shell := true }, .ok m =>
    let i ← converse m (← IO.getStdin) (← IO.getStdout) (fresh m { target })
    write (.success (report m i))
  | _, _ => write (run arguments ByteArray.empty)

end Collatz
end Flowchart

def main (arguments : List String) : IO UInt32 :=
  Flowchart.Collatz.program arguments
