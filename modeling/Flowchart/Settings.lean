import Flowchart.Json.Reader
import Flowchart.Text.Blank

/-!
# Settings

The settings that all instances of a machine share.  Each has a default, and a JSON
document names only the ones that it changes.  A document may be an object, or an array
that gives the settings in order and may stop early.
-/

namespace Flowchart

/-- Shapes of nodes in a diagram. -/
inductive Shape where
  | box
  | diamond
  | ellipse
  deriving DecidableEq, Repr

def Shape.name : Shape → String
  | box => "box"
  | diamond => "diamond"
  | ellipse => "ellipse"

/-- What a step does in a terminal state. -/
inductive TerminalPolicy where
  /-- The step is an error. -/
  | reject
  /-- The step changes nothing and says that the machine has halted. -/
  | ignore
  deriving DecidableEq, Repr

def TerminalPolicy.name : TerminalPolicy → String
  | reject => "reject"
  | ignore => "ignore"

/-- How diagrams look. -/
structure Style where
  fontSize : Nat := 12
  defaultShape : Shape := .box
  deriving DecidableEq, Repr

structure Settings where
  /-- The endings that names of terminal states must have.  Without any, every name will
  do. -/
  terminalSuffixes : List String := ["Complete", "End", "Done"]
  terminalStep : TerminalPolicy := .reject
  /-- Whether instances keep a log of their transitions. -/
  recordTransitions : Bool := true
  style : Style := {}
  deriving DecidableEq, Repr

/-- Why settings cannot be used. -/
inductive SettingsError where
  /-- The text is not JSON of the right form. -/
  | malformed
  | blankSuffix
  | zeroFontSize
  deriving DecidableEq, Repr

def SettingsError.message : SettingsError → String
  | malformed => "Failed to parse engine configuration"
  | blankSuffix =>
    "Invalid engine configuration: terminal_suffixes must not contain blank entries"
  | zeroFontSize => "Invalid engine configuration: graph.font_size must be positive"

namespace Settings

/-- Whether a terminal state may have this name. -/
def isTerminalName (s : Settings) (name : String) : Bool :=
  s.terminalSuffixes.isEmpty ||
    s.terminalSuffixes.any fun suffix => suffix.toList.isSuffixOf name.toList

def validate (s : Settings) : Except SettingsError Unit :=
  if s.terminalSuffixes.any fun suffix => Text.trim suffix.toList = [] then
    .error .blankSuffix
  else if s.style.fontSize = 0 then .error .zeroFontSize
  else .ok ()

/-! ### Reading -/

open Json (Value)

/-- The largest font size. -/
def maxFontSize : Nat :=
  UInt32.size - 1

/-- A field that may be missing. -/
def optional {α : Type} (read : Value → Option α) (default : α) : Option Value → Option α
  | some v => read v
  | none => some default

/-- The values of the fields in order, of a record that may be an object or an array. -/
def fieldValues (fields : List String) : Value → Option (List (Option Value))
  | .object members =>
    if Value.isRecord fields members then
      some (fields.map fun field => Value.member? field members)
    else none
  | .array items =>
    if items.length ≤ fields.length then
      some (items.map some ++ List.replicate (fields.length - items.length) none)
    else none
  | _ => none

def readShape? : Value → Option Shape :=
  Value.choice? [("box", .box), ("diamond", .diamond), ("ellipse", .ellipse)]

def readPolicy? : Value → Option TerminalPolicy :=
  Value.choice? [("reject", .reject), ("ignore", .ignore)]

def readStyle? (v : Value) : Option Style :=
  match fieldValues ["font_size", "default_shape"] v with
  | some [fontSize, defaultShape] => do
    let fontSize ← optional (Value.nat? maxFontSize) ({} : Style).fontSize fontSize
    let defaultShape ← optional readShape? ({} : Style).defaultShape defaultShape
    return { fontSize, defaultShape }
  | _ => none

def ofJson? (v : Value) : Option Settings :=
  let names := ["terminal_suffixes", "terminal_step", "record_transitions", "graph"]
  match fieldValues names v with
  | some [suffixes, policy, recording, style] => do
    let defaults : Settings := {}
    let terminalSuffixes ←
      optional (Value.list? Value.string?) defaults.terminalSuffixes suffixes
    let terminalStep ← optional readPolicy? defaults.terminalStep policy
    let recordTransitions ← optional Value.bool? defaults.recordTransitions recording
    let style ← optional readStyle? defaults.style style
    return { terminalSuffixes, terminalStep, recordTransitions, style }
  | _ => none

/-- Reads and checks a document. -/
def read (text : String) : Except SettingsError Settings :=
  match (Json.read? text).bind ofJson? with
  | none => .error .malformed
  | some settings => do
    settings.validate
    return settings

end Settings
end Flowchart
