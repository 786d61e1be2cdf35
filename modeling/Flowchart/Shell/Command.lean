import Flowchart.Text.Blank
import Flowchart.Text.Numeral

/-!
# Shell commands

A line, apart from blanks around it, is one of these:

* `s` or `S` : take a step;
* `q` or `Q` : leave the shell;
* a decimal number : run until the step counter has this value;
* `+` and any text : pass the text to the data.
-/

namespace Flowchart
namespace Shell

inductive Command where
  | step
  | quit
  | runToStep (count : Nat)
  | inject (payload : String)
  deriving DecidableEq, Repr

/-- Why the shell cannot take a line. -/
inductive ShellError where
  /-- The line is no command. -/
  | invalid (line : String)
  /-- The input or the output failed. -/
  | inputOutput (reason : String)
  deriving DecidableEq, Repr

def ShellError.message : ShellError → String
  | invalid line => "Invalid command __" ++ line ++ "__ try again"
  | inputOutput reason => "Shell I/O failed: " ++ reason

/-- The error of a line whose bytes are not UTF-8. -/
def ShellError.notText : ShellError :=
  .inputOutput "stream did not contain valid UTF-8"

namespace Command

def parse (line : String) : Except ShellError Command :=
  match Text.trim line.toList with
  | '+' :: payload => .ok (inject (String.ofList payload))
  | ['s'] | ['S'] => .ok step
  | ['q'] | ['Q'] => .ok quit
  | text =>
    match Text.readNumeral Text.maxWord text with
    | .ok count => .ok (runToStep count)
    | .error _ => .error (.invalid (String.ofList text))

end Command
end Shell
end Flowchart
