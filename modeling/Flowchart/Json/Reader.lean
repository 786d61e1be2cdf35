import Flowchart.Json.Token
import Flowchart.Json.Value

/-!
# Reading JSON text

A value is built from the tokens by a machine whose state holds the arrays and objects
that are still open.  Nesting of any depth is read, and nothing may follow the value.

## Main definitions

* `Builder.step` takes one token.
* `read?` reads a text that holds one value and blanks around it.
-/

namespace Flowchart
namespace Json

/-- An array or object that is still open, with what it holds so far, newest first. -/
inductive Frame where
  | array (before : List Value)
  /-- An object, with the name of the member whose value comes next. -/
  | member (before : List (Option String × Value)) (name : Option String)

/-- What may come next, under the frames still open, innermost first. -/
inductive Builder where
  | value (frames : List Frame)
  /-- A first item, or the end of the array just opened. -/
  | firstItem (frames : List Frame)
  /-- A name; or, right after the opening brace, the end of the object. -/
  | name (first : Bool) (before : List (Option String × Value)) (frames : List Frame)
  | colon (name : Option String) (before : List (Option String × Value))
    (frames : List Frame)
  /-- A value is complete. -/
  | after (value : Value) (frames : List Frame)

namespace Builder

/-- Takes a token where a value begins. -/
def stepValue (frames : List Frame) : Token → Option Builder
  | .null => some (.after .null frames)
  | .bool b => some (.after (.bool b) frames)
  | .number n => some (.after (.number n) frames)
  | .text s => some (.after (.text s) frames)
  | .openArray => some (.firstItem frames)
  | .openObject => some (.name true [] frames)
  | .closeArray | .closeObject | .colon | .comma => none

/-- Takes one token. -/
def step : Builder → Token → Option Builder
  | .value frames, token => stepValue frames token
  | .firstItem frames, .closeArray => some (.after (.array []) frames)
  | .firstItem frames, token => stepValue (.array [] :: frames) token
  | .name true _ frames, .closeObject => some (.after (.object []) frames)
  | .name _ before frames, .text key => some (.colon key before frames)
  | .colon key before frames, .colon => some (.value (.member before key :: frames))
  | .after v (.array before :: frames), .comma =>
    some (.value (.array (v :: before) :: frames))
  | .after v (.array before :: frames), .closeArray =>
    some (.after (.array (v :: before).reverse) frames)
  | .after v (.member before key :: frames), .comma =>
    some (.name false ((key, v) :: before) frames)
  | .after v (.member before key :: frames), .closeObject =>
    some (.after (.object ((key, v) :: before).reverse) frames)
  | _, _ => none

/-- The value, if one is complete and nothing is open. -/
def finish : Builder → Option Value
  | .after v [] => some v
  | _ => none

end Builder

/-- The value that a row of tokens describes. -/
def ofTokens? (tokens : List Token) : Option Value :=
  (tokens.foldlM Builder.step (.value [])).bind Builder.finish

def read? (text : String) : Option Value :=
  (tokens? text.toList).bind ofTokens?

end Json
end Flowchart
