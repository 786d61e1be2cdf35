/-!
# Entries in the order of their keys

A list of entries with ascending keys, one for each key, is a table from keys to values.
-/

namespace Flowchart
namespace Entries

variable {κ α : Type}

/-- Puts an entry in its place, over the one of the same key. -/
def insert [LT κ] [DecidableLT κ] [DecidableEq κ] (key : κ) (value : α) :
    List (κ × α) → List (κ × α)
  | [] => [(key, value)]
  | e :: rest =>
    if key < e.1 then (key, value) :: e :: rest
    else if key = e.1 then (key, value) :: rest
    else e :: insert key value rest

end Entries
end Flowchart
