import Flowchart.Text.Ranges

/-!
# Blanks and trimming

A blank is a character of the Unicode property `White_Space`.  Zero-width characters
such as U+200B and U+FEFF do not have the property, and the separators U+001C to U+001F
do not have it either.
-/

namespace Flowchart
namespace Text

def blankRanges : List (Nat × Nat) :=
  [(0x09, 0x0D), (0x20, 0x20), (0x85, 0x85), (0xA0, 0xA0), (0x1680, 0x1680),
   (0x2000, 0x200A), (0x2028, 0x2029), (0x202F, 0x202F), (0x205F, 0x205F),
   (0x3000, 0x3000)]

def isBlank (c : Char) : Bool :=
  inRanges blankRanges c

/-- The text from its first character that is no blank. -/
def trimStart (text : List Char) : List Char :=
  text.dropWhile isBlank

/-- The text up to its last character that is no blank. -/
def trimEnd (text : List Char) : List Char :=
  (text.reverse.dropWhile isBlank).reverse

def trim (text : List Char) : List Char :=
  trimEnd (trimStart text)

end Text

/-- The text without the blanks at both ends. -/
def trimmed (s : String) : String :=
  String.ofList (Text.trim s.toList)

end Flowchart
