import Flowchart.Machine

/-!
# Blueprints

A blueprint declares the states of a machine in order, each with its transition code,
and registers the handlers.  A handler is registered under a name of its own; the usual
one is the handler name of its state.  Building turns a blueprint into a machine or says
everything that is wrong with it.
-/

namespace Flowchart

structure Declaration where
  name : String
  code : String
  deriving DecidableEq, Repr

structure Blueprint (ω D : Type) where
  name : String
  declarations : List Declaration := []
  /-- The registered names and handlers, in order of registration. -/
  handlers : List (String × Handler ω D) := []
  /-- The acronym or name of the state to begin in, if it is not the first. -/
  start : Option String := none
  settings : Settings := {}
  hooks : Hooks ω D := {}

namespace Blueprint

variable {ω D : Type}

/-- Declares the next state. -/
def declare (b : Blueprint ω D) (name code : String) : Blueprint ω D :=
  { b with declarations := b.declarations ++ [⟨name, code⟩] }

def declareAll (b : Blueprint ω D) (declarations : List Declaration) : Blueprint ω D :=
  { b with declarations := b.declarations ++ declarations }

/-- Registers a handler under exactly this name. -/
def register (b : Blueprint ω D) (name : String) (h : Handler ω D) : Blueprint ω D :=
  { b with handlers := b.handlers ++ [(name, h)] }

/-- Registers the handler of a state. -/
def handle (b : Blueprint ω D) (state : String) (h : Handler ω D) : Blueprint ω D :=
  b.register (handlerName state) h

end Blueprint
end Flowchart
