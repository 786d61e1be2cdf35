/-!
# Tokens of JSON text

The text is scanned by a machine that takes one character at a time.  Its state says
where in a token the next character stands, and it carries the tokens completed so far,
newest first.  A number ends where a character comes that cannot continue it, and that
character is then looked at afresh.

## Main definitions

* `Scanner.step` takes one character.
* `tokens?` scans a whole text, and refuses one with a broken token.
-/

namespace Flowchart
namespace Json

inductive Token where
  | openArray
  | closeArray
  | openObject
  | closeObject
  | colon
  | comma
  | null
  | bool (b : Bool)
  | number (natural : Option Nat)
  | text (string : Option String)
  deriving DecidableEq, Repr

/-- The blanks of JSON text. -/
def isSpace (c : Char) : Bool :=
  c = ' ' || c = '\t' || c = '\n' || c = '\r'

/-! ### Escapes in texts -/

/-- The value of a hexadecimal digit. -/
def hexDigit? (c : Char) : Option Nat :=
  if c.isDigit then some (c.toNat - '0'.toNat)
  else if 'a' ≤ c ∧ c ≤ 'f' then some (c.toNat - 'a'.toNat + 10)
  else if 'A' ≤ c ∧ c ≤ 'F' then some (c.toNat - 'A'.toNat + 10)
  else none

/-- The code unit that a backslash and this letter stand for. -/
def escape? : Char → Option Nat
  | '"' => some 0x22
  | '\\' => some 0x5C
  | '/' => some 0x2F
  | 'b' => some 0x08
  | 'f' => some 0x0C
  | 'n' => some 0x0A
  | 'r' => some 0x0D
  | 't' => some 0x09
  | _ => none

def isHighSurrogate (unit : Nat) : Bool :=
  0xD800 ≤ unit && unit ≤ 0xDBFF

def isLowSurrogate (unit : Nat) : Bool :=
  0xDC00 ≤ unit && unit ≤ 0xDFFF

/-- The characters of a row of code points in which an escape may have named a
surrogate.  A high surrogate and the low one behind it make one character; any other
surrogate stands for nothing. -/
def decodeUnits : List Nat → Option (List Char)
  | [] => some []
  | [unit] =>
    if isHighSurrogate unit || isLowSurrogate unit then none else some [Char.ofNat unit]
  | high :: low :: rest =>
    if isHighSurrogate high then
      if isLowSurrogate low then
        (decodeUnits rest).map
          (Char.ofNat (0x10000 + (high - 0xD800) * 0x400 + (low - 0xDC00)) :: ·)
      else none
    else if isLowSurrogate high then none
    else (decodeUnits (low :: rest)).map (Char.ofNat high :: ·)

/-! ### The scanner -/

/-- Where in a number the scanner stands. -/
inductive NumberPart where
  /-- After a minus sign. -/
  | sign
  /-- After a leading zero, which no digit may follow. -/
  | zero
  | whole
  /-- After the point. -/
  | point
  | fraction
  /-- After the letter of the exponent. -/
  | exponent
  /-- After the sign of the exponent. -/
  | exponentSign
  | exponentDigits
  deriving DecidableEq, Repr

/-- Where in a text the scanner stands. -/
inductive TextPart where
  | plain
  | escape
  /-- Inside a four-digit escape, with the digits still due and the value of those read. -/
  | hex (due value : Nat)
  deriving DecidableEq, Repr

/-- Where the next character stands. -/
inductive Mode where
  | between
  /-- Inside a word, with the letter due, the letters after it and the token they make. -/
  | word (due : Char) (more : List Char) (token : Token)
  /-- Inside a number, with its value as long as it is natural. -/
  | number (part : NumberPart) (natural : Option Nat)
  /-- Inside a text, with its code points so far, newest first. -/
  | text (part : TextPart) (units : List Nat)
  deriving DecidableEq, Repr

structure Scanner where
  mode : Mode
  /-- The completed tokens, newest first. -/
  done : List Token
  deriving DecidableEq, Repr

namespace Scanner

def start : Scanner :=
  ⟨.between, []⟩

/-- Takes the first character of a token, or a blank between tokens. -/
def stepBetween (done : List Token) (c : Char) : Option Scanner :=
  if isSpace c then some ⟨.between, done⟩
  else if c = '0' then some ⟨.number .zero (some 0), done⟩
  else if c.isDigit then some ⟨.number .whole (some (c.toNat - '0'.toNat)), done⟩
  else
    match c with
    | '[' => some ⟨.between, .openArray :: done⟩
    | ']' => some ⟨.between, .closeArray :: done⟩
    | '\x7b' => some ⟨.between, .openObject :: done⟩
    | '\x7d' => some ⟨.between, .closeObject :: done⟩
    | ':' => some ⟨.between, .colon :: done⟩
    | ',' => some ⟨.between, .comma :: done⟩
    | '"' => some ⟨.text .plain [], done⟩
    | '-' => some ⟨.number .sign none, done⟩
    | 'n' => some ⟨.word 'u' ['l', 'l'] .null, done⟩
    | 't' => some ⟨.word 'r' ['u', 'e'] (.bool true), done⟩
    | 'f' => some ⟨.word 'a' ['l', 's', 'e'] (.bool false), done⟩
    | _ => none

/-- Takes a character inside a text. -/
def stepText (done : List Token) (units : List Nat) (c : Char) : TextPart → Option Scanner
  | .plain =>
    if c = '"' then
      some ⟨.between, .text ((decodeUnits units.reverse).map String.ofList) :: done⟩
    else if c = '\\' then some ⟨.text .escape units, done⟩
    else if c.toNat < 0x20 then none
    else some ⟨.text .plain (c.toNat :: units), done⟩
  | .escape =>
    if c = 'u' then some ⟨.text (.hex 4 0) units, done⟩
    else (escape? c).map fun unit => ⟨.text .plain (unit :: units), done⟩
  | .hex due value =>
    (hexDigit? c).map fun d =>
      if due ≤ 1 then ⟨.text .plain ((value * 16 + d) :: units), done⟩
      else ⟨.text (.hex (due - 1) (value * 16 + d)) units, done⟩

/-- Whether a number may end here. -/
def canEnd : NumberPart → Bool
  | .zero | .whole | .fraction | .exponentDigits => true
  | .sign | .point | .exponent | .exponentSign => false

/-- The part of a number that a character continues to, with the value of the whole
number. -/
def continueNumber (part : NumberPart) (natural : Option Nat) (c : Char) :
    Option (NumberPart × Option Nat) :=
  match part with
  | .sign =>
    if c = '0' then some (.zero, none)
    else if c.isDigit then some (.whole, none)
    else none
  | .zero =>
    if c = '.' then some (.point, none)
    else if c = 'e' ∨ c = 'E' then some (.exponent, none) else none
  | .whole =>
    if c.isDigit then some (.whole, natural.map fun n => n * 10 + (c.toNat - '0'.toNat))
    else if c = '.' then some (.point, none)
    else if c = 'e' ∨ c = 'E' then some (.exponent, none) else none
  | .point => if c.isDigit then some (.fraction, none) else none
  | .fraction =>
    if c.isDigit then some (.fraction, none)
    else if c = 'e' ∨ c = 'E' then some (.exponent, none) else none
  | .exponent =>
    if c = '+' ∨ c = '-' then some (.exponentSign, none)
    else if c.isDigit then some (.exponentDigits, none) else none
  | .exponentSign => if c.isDigit then some (.exponentDigits, none) else none
  | .exponentDigits => if c.isDigit then some (.exponentDigits, none) else none

/-- Takes one character. -/
def step (s : Scanner) (c : Char) : Option Scanner :=
  match s.mode with
  | .between => stepBetween s.done c
  | .word due more token =>
    if c = due then
      match more with
      | [] => some ⟨.between, token :: s.done⟩
      | next :: more => some ⟨.word next more token, s.done⟩
    else none
  | .number part natural =>
    match continueNumber part natural c with
    | some (part, natural) => some ⟨.number part natural, s.done⟩
    | none => if canEnd part then stepBetween (.number natural :: s.done) c else none
  | .text part units => stepText s.done units c part

/-- The tokens, oldest first, if the text may end here. -/
def finish (s : Scanner) : Option (List Token) :=
  match s.mode with
  | .between => some s.done.reverse
  | .number part natural =>
    if canEnd part then some (Token.number natural :: s.done).reverse else none
  | .word _ _ _ | .text _ _ => none

end Scanner

def tokens? (text : List Char) : Option (List Token) :=
  (text.foldlM Scanner.step Scanner.start).bind Scanner.finish

end Json
end Flowchart
