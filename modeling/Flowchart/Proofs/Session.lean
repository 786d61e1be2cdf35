import Flowchart.Proofs.Command
import Flowchart.Proofs.Operation
import Flowchart.Shell.Session
import Mathlib.Data.List.Basic

/-!
# A session is a fold

A session goes through its lines one by one.  What it does to the instance is a left fold
over the lines up to the first that quits.  What it writes is an exchange for each of
these lines: where the instance stands, the prompt and the reply.

No line keeps the session for ever.  Only a run to a step count takes more than one step.
It asks whether the machine has halted before each of them, so each raises the counter.
-/

namespace Flowchart

variable {ω D : Type}

namespace Machine

/-- The run to a step count as a loop that watches the counter, with a bound on its
steps. -/
def countUp (m : Machine ω D) (count bound : Nat) (i : Instance ω D) :
    Instance ω D × Ending :=
  if count < i.steps then (i, .failed (.stepCountPassed count i.steps))
  else
    m.driveTo (fun j => count ≤ j.steps) (m.unreachable ("step " ++ toString count))
      bound i

section Counting

variable {m : Machine ω D} {i j : Instance ω D}

/-- Where the machine has not halted, a step that succeeds raises the counter by one. -/
theorem steps_of_step
    (hopen : m.isComplete i = false)
    {result : StepResult}
    (h : m.step i = (j, .ok result)) :
    j.steps = i.steps + 1 := by
  rcases (Advance.of_eq h).halts_or_commits with
    ⟨hcomplete, -⟩ | ⟨branch, target, w, d, -, -, -, rfl, -⟩
  · rw [hopen] at hcomplete
    cases hcomplete
  · simp

/-- A loop that watches the counter takes the steps that are missing, whatever it would
say of a counter that has passed the count. -/
theorem driveTo_steps
    {count missing bound : Nat}
    (reached : Nat → Bool)
    (hreached : ∀ steps ≤ count, reached steps = decide (steps = count))
    (hmissing : i.steps + missing = count)
    (hbound : missing ≤ bound)
    (target : String) :
    m.driveTo (fun j => reached j.steps) (m.unreachable target) bound i =
      ((m.takeSteps target missing i).1, .ofExcept (m.takeSteps target missing i).2) := by
  induction missing generalizing bound i with
  | zero =>
      have hgoal : reached i.steps = true := by
        rw [hreached i.steps (by omega)]
        exact decide_eq_true (by omega)
      unfold driveTo drive takeSteps
      simp [hgoal]
  | succ missing ih =>
      obtain ⟨bound, rfl⟩ : ∃ rest, bound = rest + 1 := ⟨bound - 1, by omega⟩
      have hshort : reached i.steps = false := by
        rw [hreached i.steps (by omega)]
        exact decide_eq_false (by omega)
      unfold driveTo drive takeSteps
      cases hcomplete : m.isComplete i with
      | true =>
          simp [hshort]
      | false =>
          simp only [hshort, Bool.false_eq_true, if_false]
          rcases hstep : m.step i with ⟨j, e | result⟩
          · rfl
          · have hsteps := steps_of_step hcomplete hstep
            exact ih (by omega) (by omega)

/-- The loop ends within the steps that the counter lacks, as the run to the count
does. -/
theorem countUp_eq_runToStepCount
    (m : Machine ω D)
    (count spare : Nat)
    (i : Instance ω D) :
    m.countUp count (count - i.steps + spare) i =
      ((m.runToStepCount count i).1, .ofExcept (m.runToStepCount count i).2) := by
  unfold countUp runToStepCount
  split_ifs with hpassed
  · rfl
  · have hreached : ∀ steps ≤ count, decide (count ≤ steps) = decide (steps = count) := by
      intro steps hle
      exact decide_eq_decide.2 (by omega)
    exact driveTo_steps (fun steps => decide (count ≤ steps)) hreached (by omega)
      (by omega) _

end Counting

end Machine

namespace Shell

/-- The operation that a command is carried out by. -/
def Command.operation? : Command → Option (Operation ω D)
  | step => some .step
  | quit => none
  | runToStep count => some (.runToStepCount count)
  | inject payload => some (.inject payload)

/-- Whether a line is the command to quit. -/
def quits (line : String) : Bool :=
  match Command.parse line with
  | .ok .quit => true
  | _ => false

/-- The lines up to the first that quits, or all lines. -/
def consumed (lines : List String) : List String :=
  lines.take (lines.findIdx quits + 1)

/-- What a command does to the instance, and the error that it reports. -/
def obey (m : Machine ω D) (command : Command) (i : Instance ω D) :
    Instance ω D × Option RunError :=
  match command.operation? with
  | some op => m.perform op i
  | none => (i, none)

/-- The instance after a line. -/
def effect (m : Machine ω D) (i : Instance ω D) (line : String) : Instance ω D :=
  match Command.parse line with
  | .ok command => (obey m command i).1
  | .error _ => i

/-- What is written about a line behind its prompt. -/
def reply (m : Machine ω D) (i : Instance ω D) (line : String) : String :=
  match Command.parse line with
  | .error _ => "Invalid command __" ++ trimmed line ++ "__ try again" ++ "\n"
  | .ok command =>
    match (obey m command i).2 with
    | some e => "Error: " ++ e.message ++ "\n"
    | none => ""

/-- The state and the step count, each line of the diagnostics behind a tab, and the
prompt. -/
def block (m : Machine ω D) (i : Instance ω D) : String :=
  "Current state is " ++ (m.nameOf? i.current).getD "" ++ ", step count is " ++
    toString i.steps ++ "\n" ++
    String.join ((m.hooks.diagnostics i.data).map fun line => "\t" ++ line ++ "\n") ++
    prompt

/-- What is written for a line. -/
def exchange (m : Machine ω D) (i : Instance ω D) (line : String) : String :=
  block m i ++ reply m i line

/-- What is written behind the last line, unless it quits. -/
def farewell (m : Machine ω D) (lines : List String) (i : Instance ω D) : String :=
  if lines.any quits then "" else block m i ++ "\n"

/-- What a session writes: an exchange for each line, at the instance that the lines
before it lead to. -/
def transcript (m : Machine ω D) (lines : List String) (i : Instance ω D) : String :=
  let before := (consumed lines).scanl (effect m) i
  let last := (consumed lines).foldl (effect m) i
  String.join (List.zipWith (exchange m) before (consumed lines)) ++ farewell m lines last

/-! ### One line -/

/-- What comes of a line, by what it is written as apart from the blanks around it. -/
structure Heeds (m : Machine ω D) (line : String) (i : Instance ω D) : Prop where
  quits_iff : quits line = true ↔ Command.Written .quit (Text.trim line.toList)
  /-- A line that is written as a command is obeyed. -/
  obeys : ∀ command, Command.Written command (Text.trim line.toList) →
    effect m i line = (obey m command i).1 ∧
    reply m i line =
      match (obey m command i).2 with
      | some e => "Error: " ++ e.message ++ "\n"
      | none => ""
  /-- Any other line does nothing and is shown without the blanks around it. -/
  refuses : (∀ command, ¬ Command.Written command (Text.trim line.toList)) →
    effect m i line = i ∧
    reply m i line = "Invalid command __" ++ trimmed line ++ "__ try again" ++ "\n"

theorem heeds
    (m : Machine ω D)
    (line : String)
    (i : Instance ω D) :
    Heeds m line i where
  quits_iff := by
    rw [← Command.parse_eq_ok_iff, quits]
    cases Command.parse line with
    | error e => simp
    | ok command => cases command <;> simp
  obeys := by
    intro command hwritten
    rw [effect, reply, hwritten.parse_eq]
    exact ⟨rfl, rfl⟩
  refuses := by
    intro hnone
    rw [effect, reply, (Command.parse_eq_error_iff line _).2 ⟨rfl, hnone⟩]
    exact ⟨rfl, rfl⟩

theorem banner_eq_block
    (m : Machine ω D)
    (i : Instance ω D) :
    banner m i = block m i := by
  unfold banner block statusLines
  rw [List.map_cons, List.map_map, String.join_cons, Function.comp_def]

/-- Carrying out a command reports an error exactly if its operation does, and asks to
leave exactly if it is the command to quit. -/
theorem execute_eq_obey
    (m : Machine ω D)
    (command : Command)
    (i : Instance ω D) :
    execute m command i =
      ((obey m command i).1,
        match (obey m command i).2 with
        | some e => .error e
        | none => .ok (if command = .quit then .quit else .more)) := by
  cases command with
  | quit =>
      rfl
  | step =>
      simp only [execute, obey, Command.operation?, Machine.perform]
      rcases m.step i with ⟨j, e | result⟩ <;> rfl
  | runToStep count =>
      simp only [execute, obey, Command.operation?, Machine.perform]
      rcases m.runToStepCount count i with ⟨j, e | _⟩ <;> rfl
  | inject payload =>
      simp only [execute, obey, Command.operation?, Machine.perform]
      rcases m.inject payload i with ⟨j, e | _⟩ <;> rfl

theorem answer_eq
    (m : Machine ω D)
    (line : String)
    (i : Instance ω D) :
    answer m line i =
      (effect m i line, reply m i line, if quits line then .quit else .more) := by
  unfold answer effect reply quits
  cases hparse : Command.parse line with
  | error e =>
      obtain rfl := Command.parse_error hparse
      rfl
  | ok command =>
      simp only [execute_eq_obey]
      cases command with
      | quit =>
          simp [obey, Command.operation?]
      | step | runToStep count | inject payload =>
          cases (obey m _ i).2 <;> simp

/-! ### All lines -/

theorem consumed_cons
    (line : String)
    (rest : List String) :
    consumed (line :: rest) = line :: if quits line then [] else consumed rest := by
  cases hquits : quits line <;> simp [consumed, List.findIdx_cons, hquits]

theorem transcript_nil
    (m : Machine ω D)
    (i : Instance ω D) :
    transcript m [] i = block m i ++ "\n" := by
  simp [transcript, consumed, farewell]

/-- A line that quits is the last. -/
theorem transcript_cons_of_quits
    (m : Machine ω D)
    {line : String}
    (hquits : quits line = true)
    (rest : List String)
    (i : Instance ω D) :
    transcript m (line :: rest) i = exchange m i line := by
  simp [transcript, consumed_cons, farewell, hquits]

/-- After any other line the session begins anew where the line leads. -/
theorem transcript_cons_of_not_quits
    (m : Machine ω D)
    {line : String}
    (hquits : quits line = false)
    (rest : List String)
    (i : Instance ω D) :
    transcript m (line :: rest) i =
      exchange m i line ++ transcript m rest (effect m i line) := by
  simp [transcript, consumed_cons, farewell, hquits, String.append_assoc]

theorem session_eq
    (m : Machine ω D)
    (lines : List String)
    (i : Instance ω D) :
    session m (lines.map some) i =
      ((consumed lines).foldl (effect m) i, transcript m lines i, .ok ()) := by
  induction lines generalizing i with
  | nil =>
      simp [session, consumed, transcript_nil, banner_eq_block]
  | cons line rest ih =>
      simp only [List.map_cons, session, answer_eq, banner_eq_block]
      cases hquits : quits line with
      | true =>
          simp [consumed_cons, hquits, transcript_cons_of_quits, exchange]
      | false =>
          simp [ih, consumed_cons, hquits, transcript_cons_of_not_quits, exchange,
            String.append_assoc]

/-- What holds of a session over lines of text. -/
structure FoldsCommands (m : Machine ω D) (lines : List String) (i : Instance ω D) :
    Prop where
  heeds : ∀ line j, Heeds m line j
  ending_eq : (session m (lines.map some) i).2.2 = .ok ()
  instance_eq : (session m (lines.map some) i).1 = (consumed lines).foldl (effect m) i
  output_eq : (session m (lines.map some) i).2.1 = transcript m lines i
  counting_ends : ∀ count spare j,
    m.countUp count (count - j.steps + spare) j =
      ((m.runToStepCount count j).1, .ofExcept (m.runToStepCount count j).2)

/-- Every session over lines of text ends, as the fold of its commands, with one exchange
for each line that it consumes. -/
theorem session_folds_commands
    (m : Machine ω D)
    (lines : List String)
    (i : Instance ω D) :
    FoldsCommands m lines i := by
  have hsession := session_eq m lines i
  exact {
    heeds := heeds m
    ending_eq := by rw [hsession]
    instance_eq := by rw [hsession]
    output_eq := by rw [hsession]
    counting_ends := m.countUp_eq_runToStepCount }

/-- A step, a line that is no command, and the command to quit.  The line behind it is
not read. -/
example :
    let m := Blueprint.retryMachine
    let start := m.newInstance 0 0
    let result := session m [some "s", some "x", some " Q", some "s"] start
    result.1.steps = 1 ∧
    result.2.1 = block m start ++ block m (m.step start).1 ++
      "Invalid command __x__ try again\n" ++ block m (m.step start).1 := by
  decide +kernel

end Shell
end Flowchart
