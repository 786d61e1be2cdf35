/-!
# JSON values

The values that a JSON text describes, as far as records of names, numbers and choices
need them.

A number is kept only when it is written with digits alone; a sign, a point or an
exponent makes it a number without a natural value.  A text may name half of a surrogate
pair by an escape; such a text is well formed as JSON but stands for no string of
characters.
-/

namespace Flowchart
namespace Json

inductive Value where
  | null
  | bool (b : Bool)
  | number (natural : Option Nat)
  | text (string : Option String)
  | array (items : List Value)
  | object (members : List (Option String × Value))

namespace Value

def bool? : Value → Option Bool
  | bool b => some b
  | _ => none

/-- The natural number written with digits alone, if it is at most the bound. -/
def nat? (bound : Nat) : Value → Option Nat
  | number (some n) => if n ≤ bound then some n else none
  | _ => none

def string? : Value → Option String
  | text s => s
  | _ => none

/-- The list of the items, if each can be read. -/
def list? {α : Type} (read : Value → Option α) : Value → Option (List α)
  | array items => items.mapM read
  | _ => none

/-- A choice among named alternatives: its name alone, or an object whose one member has
that name and the value null. -/
def choice? {α : Type} (alternatives : List (String × α)) : Value → Option α
  | text (some name) => alternatives.lookup name
  | object [(some name, null)] => alternatives.lookup name
  | _ => none

/-- The value of the member with a given name. -/
def member? (name : String) (members : List (Option String × Value)) : Option Value :=
  members.lookup (some name)

/-- Whether the members can be those of a record with the given fields: every name is a
string, and no field is given twice.  Members that are no fields may be repeated. -/
def isRecord (fields : List String) (members : List (Option String × Value)) : Bool :=
  members.all (fun m => m.1.isSome) &&
    fields.all fun field => (members.filter fun m => m.1 = some field).length ≤ 1

end Value
end Json
end Flowchart
