/-!
# Lines of a byte stream

A line ends at a line feed, and a carriage return right before the line feed does not
belong to it.  The last line need not end.  A line is text if its bytes are UTF-8.
-/

namespace Flowchart
namespace Shell

/-- Cuts bytes behind each line feed.  A last line without one is kept as it is. -/
def cutLines : List UInt8 → List (List UInt8)
  | [] => []
  | b :: rest =>
    if b = 10 then [b] :: cutLines rest
    else
      match cutLines rest with
      | [] => [[b]]
      | line :: more => (b :: line) :: more

/-- The line without its end. -/
def dropEnd (line : List UInt8) : List UInt8 :=
  match line.reverse with
  | 10 :: 13 :: rest => rest.reverse
  | 10 :: rest => rest.reverse
  | _ => line

/-- The lines of a byte stream, each as text if it is. -/
def linesOf (bytes : ByteArray) : List (Option String) :=
  (cutLines bytes.toList).map fun line =>
    String.fromUTF8? (ByteArray.mk (dropEnd line).toArray)

end Shell
end Flowchart
