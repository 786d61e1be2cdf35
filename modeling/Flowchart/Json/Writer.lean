/-!
# Writing JSON text

Strings are written with the shortest escapes: a letter where there is one, four
hexadecimal digits for the other controls, and everything else as it is.  No blanks are
written.
-/

namespace Flowchart
namespace Json

/-- A hexadecimal digit below sixteen, in small letters. -/
def hexDigit (n : Nat) : Char :=
  if n < 10 then Char.ofNat ('0'.toNat + n) else Char.ofNat ('a'.toNat + (n - 10))

/-- One character of a string as it stands between the quotes. -/
def writtenChar (c : Char) : List Char :=
  match c with
  | '"' => ['\\', '"']
  | '\\' => ['\\', '\\']
  | '\n' => ['\\', 'n']
  | '\r' => ['\\', 'r']
  | '\t' => ['\\', 't']
  | c =>
    if c.toNat = 0x08 then ['\\', 'b']
    else if c.toNat = 0x0C then ['\\', 'f']
    else if c.toNat < 0x20 then
      ['\\', 'u', '0', '0', hexDigit (c.toNat / 16), hexDigit (c.toNat % 16)]
    else [c]

def writeString (s : String) : String :=
  String.ofList ('"' :: s.toList.flatMap writtenChar ++ ['"'])

def writeBool (b : Bool) : String :=
  if b then "true" else "false"

/-- An array of values that are already written. -/
def writeArray (items : List String) : String :=
  "[" ++ ",".intercalate items ++ "]"

/-- An object with the given names and values that are already written. -/
def writeObject (members : List (String × String)) : String :=
  "\x7b" ++ ",".intercalate (members.map fun m => writeString m.1 ++ ":" ++ m.2) ++ "\x7d"

end Json
end Flowchart
