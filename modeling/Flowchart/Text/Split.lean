/-!
# Cutting text

Cutting at every separator, and cutting once at the first arrow.
-/

namespace Flowchart
namespace Text

/-- The pieces between the separators.  There is one piece more than there are
separators. -/
def pieces (separator : Char) : List Char → List (List Char)
  | [] => [[]]
  | c :: rest =>
    match pieces separator rest with
    | [] => [[c]]
    | piece :: more =>
      if c = separator then [] :: piece :: more else (c :: piece) :: more

/-- What stands before and after the first arrow `->`, if there is an arrow. -/
def cutArrow : List Char → Option (List Char × List Char)
  | '-' :: '>' :: rest => some ([], rest)
  | c :: rest => (cutArrow rest).map fun cut => (c :: cut.1, cut.2)
  | [] => none

end Text
end Flowchart
