import Flowchart.Collatz.Stages
import Flowchart.Graph.OfMachine
import Flowchart.Shell.Session

/-!
# The chain search from the command line

The arguments are a target, `--diagram` and `--shell`, in any order and number.  The
last target counts.  With `--diagram` the diagram of the machine is written, with
`--shell` the search is driven by commands, and otherwise it runs to its end.  A driven
or finished search reports the longest chain.
-/

namespace Flowchart
namespace Collatz

structure Options where
  target : Nat := 100
  diagram : Bool := false
  shell : Bool := false
  deriving DecidableEq, Repr

namespace Options

/-- Takes one argument into account. -/
def add (o : Options) (argument : String) : Except Text.NumeralError Options :=
  if argument = "--diagram" then .ok { o with diagram := true }
  else if argument = "--shell" then .ok { o with shell := true }
  else do
    let target ← Text.readNumeral Text.maxWord argument.toList
    return { o with target }

/-- Reads the arguments from the left, up to the first that is no target and no option. -/
def ofArguments (arguments : List String) : Except Text.NumeralError Options :=
  arguments.foldlM add {}

end Options

/-- What the program writes, and its exit code. -/
structure Output where
  stdout : String
  stderr : String
  exit : UInt32
  deriving DecidableEq, Repr

namespace Output

def success (stdout : String) : Output :=
  ⟨stdout, "", 0⟩

/-- The output of a program that ends with an error after writing some text. -/
def failure (stdout description : String) : Output :=
  ⟨stdout, "Error: " ++ description ++ "\n", 1⟩

end Output

def describeNumeralError (e : Text.NumeralError) : String :=
  let kind :=
    match e with
    | .empty => "Empty"
    | .invalidDigit => "InvalidDigit"
    | .overflow => "PosOverflow"
  "ParseIntError \x7b kind: " ++ kind ++ " \x7d"

def describeShellError : Shell.ShellError → String
  | .invalid line => "Invalid(" ++ Text.quoted line ++ ")"
  | .inputOutput reason =>
    "Io(Error \x7b kind: InvalidData, message: " ++ Text.quoted reason ++ " \x7d)"

/-- A bound on steps that no run comes to. -/
def stepBound : Nat :=
  UInt64.size / 4

/-- The lines about the end of a search. -/
def report (m : Machine Unit Search) (i : Instance Unit Search) : String :=
  "Finished in state " ++ (m.nameOf? i.current).getD "" ++ " after " ++ toString i.steps ++
    " steps\n" ++
    match i.data.longest? with
    | some (n, length) =>
      "Result is " ++ toString n ++ " (chain length " ++ toString length ++ ")\n" ++
        "->".intercalate ((chain stepBound n).map toString) ++ "\n"
    | none => "No chains computed yet\n"

/-- A search that has not begun. -/
def fresh (m : Machine Unit Search) (o : Options) : Instance Unit Search :=
  m.newInstance () { target := o.target }

/-- Runs the search to its end. -/
def runSearch (m : Machine Unit Search) (o : Options) : Output :=
  match m.runToCompletion stepBound (fresh m o) with
  | (i, .done) => .success (report m i)
  | (_, .failed e) => .failure "" e.message
  | (_, .unfinished) => .failure "" "the search did not end"

/-- Drives the search by the lines of the input. -/
def runShell (m : Machine Unit Search) (o : Options) (input : ByteArray) : Output :=
  match Shell.session m (Shell.linesOf input) (fresh m o) with
  | (i, output, .ok ()) => .success (output ++ report m i)
  | (_, output, .error e) => .failure output (describeShellError e)

def run (arguments : List String) (input : ByteArray) : Output :=
  match Options.ofArguments arguments with
  | .error e => .failure "" (describeNumeralError e)
  | .ok o =>
    match blueprint.build with
    | .error e => .failure "" e.message
    | .ok m =>
      if o.diagram then .success m.toGraph.text
      else if o.shell then runShell m o input
      else runSearch m o

end Collatz
end Flowchart
