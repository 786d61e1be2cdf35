import Flowchart.Instance.Run
import Flowchart.Shell.Command
import Flowchart.Shell.Lines

/-!
# Shell sessions

A session drives one instance by commands.  Before each line it shows where the instance
stands and prompts.  A line that is no command and a command that fails are reported,
and the session goes on; it ends at the command to quit, at the end of the input, or at
a line that is not text.

## Main definitions

* `Shell.execute` carries out one command.
* `Shell.session` goes through a list of lines and gives what it wrote.
-/

namespace Flowchart
namespace Shell

variable {ω D : Type}

def prompt : String :=
  "Command [(S)tep, # for stepcount, (Q)uit, +(...)] : "

/-- The current state and step count, then the description of the data, indented. -/
def statusLines (m : Machine ω D) (i : Instance ω D) : List String :=
  ("Current state is " ++ (m.nameOf? i.current).getD "" ++ ", step count is " ++
      toString i.steps) ::
    (m.hooks.diagnostics i.data).map ("\t" ++ ·)

/-- What is shown before a line is read. -/
def banner (m : Machine ω D) (i : Instance ω D) : String :=
  String.join ((statusLines m i).map (· ++ "\n")) ++ prompt

/-- Whether the session goes on after a command. -/
inductive Flow where
  | more
  | quit
  deriving DecidableEq, Repr

def execute (m : Machine ω D) (command : Command) (i : Instance ω D) :
    Instance ω D × Except RunError Flow :=
  match command with
  | .step =>
    match m.step i with
    | (i, .ok _) => (i, .ok .more)
    | (i, .error e) => (i, .error e)
  | .quit => (i, .ok .quit)
  | .runToStep count =>
    match m.runToStepCount count i with
    | (i, .ok ()) => (i, .ok .more)
    | (i, .error e) => (i, .error e)
  | .inject payload =>
    match m.inject payload i with
    | (i, .ok ()) => (i, .ok .more)
    | (i, .error e) => (i, .error e)

/-- What a line does to the instance, what it makes the shell write, and whether to go
on. -/
def answer (m : Machine ω D) (line : String) (i : Instance ω D) :
    Instance ω D × String × Flow :=
  match Command.parse line with
  | .error e => (i, e.message ++ "\n", .more)
  | .ok command =>
    match execute m command i with
    | (i, .ok flow) => (i, "", flow)
    | (i, .error e) => (i, "Error: " ++ e.message ++ "\n", .more)

/-- Goes through lines, of which those that are not text are `none`. -/
def session (m : Machine ω D) :
    List (Option String) → Instance ω D → Instance ω D × String × Except ShellError Unit
  | [], i => (i, banner m i ++ "\n", .ok ())
  | none :: _, i => (i, banner m i, .error .notText)
  | some line :: rest, i =>
    match answer m line i with
    | (next, written, .quit) => (next, banner m i ++ written, .ok ())
    | (next, written, .more) =>
      match session m rest next with
      | (last, output, ending) => (last, banner m i ++ written ++ output, ending)

end Shell
end Flowchart
