import Flowchart.Graph
import Flowchart.Proofs.Scanning

/-!
# Tokens of the DOT language

A text in the DOT language is scanned character by character.  A bare word goes on as
long as letters, digits and underscores come, and text in double quotes up to the next
quote without a backslash.  Either is an identifier, but a word that is a keyword in some
case of its letters is not.

This is said without the graphs that are written.  What is written is compared with it in
two lemmas: a name and what stands for it make one token, in front of any character that
cannot go on with a word.
-/

namespace Flowchart
namespace Dot

inductive Token where
  | word (spelling : String)
  /-- Text in double quotes, with its backslashes undone. -/
  | quoted (text : String)
  | numeral (value : Nat)
  | arrow
  | sign (c : Char)
  deriving DecidableEq, Repr

def keywords : List String :=
  ["node", "edge", "graph", "digraph", "subgraph", "strict"]

/-- Whether a word is reserved, in any case of its letters. -/
def isKeyword (word : String) : Bool :=
  keywords.any fun keyword => word.toList.map Char.toLower = keyword.toList

/-- What a token denotes as an identifier, if it is one. -/
def Token.denotes? : Token → Option String
  | word spelling => if isKeyword spelling then none else some spelling
  | quoted text => some text
  | numeral _ | arrow | sign _ => none

/-! ### The scanner -/

/-- Where the next character stands.  What was read of a token is kept newest first. -/
inductive Mode where
  | between
  | word (letters : List Char)
  | numeral (value : Nat)
  | minus
  | quoted (letters : List Char)
  /-- In quotes, after a backslash. -/
  | escape (letters : List Char)
  deriving DecidableEq, Repr

structure Scanner where
  mode : Mode
  /-- The completed tokens, newest first. -/
  done : List Token
  deriving DecidableEq, Repr

/-- Whether a word may begin with the character. -/
def isLetter (c : Char) : Bool :=
  c.isAlpha || c = '_'

def isSpace (c : Char) : Bool :=
  c = ' ' || c = '\t' || c = '\n' || c = '\r'

/-- Whether a character is a token by itself. -/
def isSign (c : Char) : Bool :=
  c = '\x7b' || c = '\x7d' || c = '[' || c = ']' || c = '=' || c = ';' || c = ',' ||
    c = ':'

namespace Scanner

/-- Takes the first character of a token, or a blank between tokens. -/
def stepBetween (done : List Token) (c : Char) : Option Scanner :=
  if isSpace c then some ⟨.between, done⟩
  else if isLetter c then some ⟨.word [c], done⟩
  else if c.isDigit then some ⟨.numeral (c.toNat - '0'.toNat), done⟩
  else if c = '"' then some ⟨.quoted [], done⟩
  else if c = '-' then some ⟨.minus, done⟩
  else if isSign c then some ⟨.between, .sign c :: done⟩
  else none

/-- Takes one character. -/
def step (s : Scanner) (c : Char) : Option Scanner :=
  match s.mode with
  | .between => stepBetween s.done c
  | .word letters =>
    if isLetter c || c.isDigit then some ⟨.word (c :: letters), s.done⟩
    else stepBetween (.word (String.ofList letters.reverse) :: s.done) c
  | .numeral value =>
    if c.isDigit then some ⟨.numeral (value * 10 + (c.toNat - '0'.toNat)), s.done⟩
    else stepBetween (.numeral value :: s.done) c
  | .minus => if c = '>' then some ⟨.between, .arrow :: s.done⟩ else none
  | .quoted letters =>
    if c = '"' then some ⟨.between, .quoted (String.ofList letters.reverse) :: s.done⟩
    else if c = '\\' then some ⟨.escape letters, s.done⟩
    else some ⟨.quoted (c :: letters), s.done⟩
  | .escape letters =>
    -- a backslash in front of anything else stands for itself
    if c = '"' ∨ c = '\\' then some ⟨.quoted (c :: letters), s.done⟩
    else some ⟨.quoted (c :: '\\' :: letters), s.done⟩

/-- The tokens, oldest first, if the text may end here. -/
def finish (s : Scanner) : Option (List Token) :=
  match s.mode with
  | .between => some s.done.reverse
  | .word letters => some (Token.word (String.ofList letters.reverse) :: s.done).reverse
  | .numeral value => some (Token.numeral value :: s.done).reverse
  | .minus | .quoted _ | .escape _ => none

end Scanner

def tokens? (text : String) : Option (List Token) :=
  (text.toList.foldlM Scanner.step ⟨.between, []⟩).bind Scanner.finish

/-! ### Texts with their tokens -/

/-- The character cannot go on with a word or a numeral. -/
structure Breaks (c : Char) : Prop where
  not_letter : isLetter c = false
  not_digit : c.isDigit = false

namespace Scanner

/-- The scanner has these tokens, newest first, if the text ends here or a character
follows that cannot go on with a word. -/
structure Holds (s : Scanner) (tokens : List Token) : Prop where
  finish_eq : s.finish = some tokens.reverse
  step_eq : ∀ c, Breaks c → s.step c = stepBetween tokens c

theorem holds_between
    (tokens : List Token) :
    Holds ⟨.between, tokens⟩ tokens :=
  ⟨rfl, fun _ _ => rfl⟩

theorem holds_word
    (letters : List Char)
    (tokens : List Token) :
    Holds ⟨.word letters, tokens⟩ (.word (String.ofList letters.reverse) :: tokens) where
  finish_eq := rfl
  step_eq := by
    intro c hc
    simp [step, hc.not_letter, hc.not_digit]

theorem holds_numeral
    (value : Nat)
    (tokens : List Token) :
    Holds ⟨.numeral value, tokens⟩ (.numeral value :: tokens) where
  finish_eq := rfl
  step_eq := by
    intro c hc
    simp [step, hc.not_digit]

end Scanner

/-- What putting texts together needs of the scanner. -/
def scanning : Scanning Scanner Token where
  between tokens := ⟨.between, tokens⟩
  step := Scanner.step
  Holds := Scanner.Holds
  Ends := Breaks
  holds_between := Scanner.holds_between
  step_eq := fun _ _ _ hholds hc => hholds.step_eq _ hc

/-- A text by itself has the tokens that it has anywhere. -/
theorem tokens?_eq
    {text : String}
    {tokens : List Token}
    (h : scanning.Scans text.toList tokens) :
    tokens? text = some tokens := by
  obtain ⟨s, hs, hholds⟩ := h []
  have htext : text.toList.foldlM Scanner.step ⟨.between, []⟩ = some s := hs
  rw [tokens?, htext, Option.bind_some, hholds.finish_eq]
  simp

namespace Scanner

/-! ### Words, numerals and quotes -/

theorem foldlM_step_word
    (before : List Token)
    (letters : List Char)
    {cs : List Char}
    (hcs : ∀ c ∈ cs, isLetter c = true ∨ c.isDigit = true) :
    cs.foldlM step ⟨.word letters, before⟩ =
      some ⟨.word (cs.reverse ++ letters), before⟩ := by
  induction cs generalizing letters with
  | nil => rfl
  | cons c cs ih =>
      have hstep : step ⟨.word letters, before⟩ c = some ⟨.word (c :: letters), before⟩ :=
        if_pos (by simpa using hcs c (by simp))
      rw [List.foldlM_cons, hstep, Option.bind_eq_bind, Option.bind_some,
        ih _ fun c hc => hcs c (.tail _ hc)]
      simp

theorem not_isSpace_of_isLetter
    {c : Char}
    (hc : isLetter c = true) :
    isSpace c = false := by
  by_contra hspace
  simp only [isSpace, Bool.or_eq_true, decide_eq_true_eq, Bool.not_eq_false] at hspace
  rcases hspace with ((rfl | rfl) | rfl) | rfl <;> cases hc

/-- A word is one token. -/
theorem scans_word
    {first : Char}
    {rest : List Char}
    (hfirst : isLetter first = true)
    (hrest : ∀ c ∈ rest, isLetter c = true ∨ c.isDigit = true) :
    scanning.Scans (first :: rest) [.word (String.ofList (first :: rest))] := by
  intro before
  have hstep : step ⟨.between, before⟩ first = some ⟨.word [first], before⟩ := by
    simp [step, stepBetween, not_isSpace_of_isLetter hfirst, hfirst]
  have hfold : (first :: rest).foldlM step ⟨.between, before⟩ =
      some ⟨.word (rest.reverse ++ [first]), before⟩ := by
    rw [List.foldlM_cons, hstep, Option.bind_eq_bind, Option.bind_some,
      foldlM_step_word before _ hrest]
  have hletters : (rest.reverse ++ [first]).reverse = first :: rest := by
    simp
  have hholds := holds_word (rest.reverse ++ [first]) before
  rw [hletters] at hholds
  exact ⟨_, hfold, hholds⟩

/-- A digit begins a numeral. -/
theorem stepBetween_digitChar
    (before : List Token)
    {d : Nat}
    (hlt : d < 10) :
    stepBetween before d.digitChar = some ⟨.numeral d, before⟩ := by
  match d with
  | 0 | 1 | 2 | 3 | 4 | 5 | 6 | 7 | 8 | 9 => rfl

theorem foldlM_step_toDigits
    (before : List Token)
    (n : Nat) :
    (Nat.toDigits 10 n).foldlM step ⟨.between, before⟩ = some ⟨.numeral n, before⟩ := by
  rcases Nat.eq_zero_or_pos n with rfl | hpos
  · rfl
  · refine Scanning.foldlM_toDigits (fun n => (⟨.numeral n, before⟩ : Scanner)) ?_ ?_ hpos
    · intro d _ hlt
      exact stepBetween_digitChar before hlt
    · intro n d hlt
      simp [step, hlt, Nat.toNat_digitChar_of_lt_ten]

theorem scans_toString
    (n : Nat) :
    scanning.Scans (toString n).toList [.numeral n] := by
  intro before
  rw [Nat.toString_eq_repr, Nat.toList_repr]
  exact ⟨_, foldlM_step_toDigits before n, holds_numeral n before⟩

/-- A character in quotes comes back, with or without a backslash in front of it. -/
theorem foldlM_step_escape
    (before : List Token)
    (letters cs : List Char) :
    (Graph.escape cs).foldlM step ⟨.quoted letters, before⟩ =
      some ⟨.quoted (cs.reverse ++ letters), before⟩ := by
  induction cs generalizing letters with
  | nil => rfl
  | cons c cs ih =>
      have hfirst : (Graph.escape [c]).foldlM step ⟨.quoted letters, before⟩ =
          some ⟨.quoted (c :: letters), before⟩ := by
        by_cases hc : c = '\\' ∨ c = '"'
        · rcases hc with rfl | rfl <;> rfl
        · obtain ⟨hbackslash, hquote⟩ := not_or.1 hc
          simp [Graph.escape, step, hbackslash, hquote]
      have hsplit : Graph.escape (c :: cs) = Graph.escape [c] ++ Graph.escape cs := by
        simp [Graph.escape]
      rw [hsplit, List.foldlM_append, hfirst, Option.bind_eq_bind, Option.bind_some, ih]
      simp

/-- Whatever its characters, a text in quotes is one token. -/
theorem passes_quote
    (text : String) :
    scanning.Passes (Graph.quote text).toList [.quoted text] := by
  intro before
  have hopen : step ⟨.between, before⟩ '"' = some ⟨.quoted [], before⟩ := rfl
  have hfold : ('"' :: Graph.escape text.toList ++ ['"']).foldlM step ⟨.between, before⟩ =
      some ⟨.between, .quoted text :: before⟩ := by
    rw [List.cons_append, List.foldlM_cons, hopen, Option.bind_eq_bind, Option.bind_some,
      List.foldlM_append, foldlM_step_escape, Option.bind_eq_bind, Option.bind_some]
    simp [step]
  rw [Graph.quote, String.toList_ofList]
  exact hfold

end Scanner

/-! ### Names -/

/-- The token that a name is written as. -/
def nameToken (name : String) : Token :=
  if Graph.isBare name.toList then .word name else .quoted name

theorem nameToken_injective :
    Function.Injective nameToken := by
  intro name name' h
  unfold nameToken at h
  split_ifs at h <;> cases h <;> rfl

/-- A name that stands bare is a word. -/
theorem isBare_eq_true_iff
    (text : List Char) :
    Graph.isBare text = true ↔
      ∃ first rest, text = first :: rest ∧ isLetter first = true ∧
        ∀ c ∈ rest, isLetter c = true ∨ c.isDigit = true := by
  have hword : ∀ c, Graph.isWordChar c = true ↔ isLetter c = true ∨ c.isDigit = true := by
    intro c
    simp only [Graph.isWordChar, Char.isAlphanum, isLetter, Bool.or_eq_true]
    exact or_right_comm
  cases text with
  | nil => simp [Graph.isBare]
  | cons first rest => simp [Graph.isBare, hword, isLetter]

theorem scans_bare
    {word : String}
    (hbare : Graph.isBare word.toList = true) :
    scanning.Scans word.toList [.word word] := by
  obtain ⟨first, rest, hword, hfirst, hrest⟩ := (isBare_eq_true_iff _).1 hbare
  have hscans := Scanner.scans_word hfirst hrest
  rwa [← hword, String.ofList_toList] at hscans

/-- The written form of a name is one token. -/
theorem scans_identifier
    (name : String) :
    scanning.Scans (Graph.identifier name).toList [nameToken name] := by
  unfold Graph.identifier nameToken
  split_ifs with hbare
  · exact scans_bare hbare
  · exact (Scanner.passes_quote name).scans

/-- Only a letter has a letter as its small form. -/
theorem isAlpha_of_isAlpha_toLower
    {c : Char}
    (h : c.toLower.isAlpha = true) :
    c.isAlpha = true := by
  by_cases hupper : c.isUpper = true
  · exact Bool.or_eq_true_iff.2 (.inl hupper)
  · have hsame : c.toLower = c := dif_neg fun hrange => hupper (decide_eq_true hrange)
    rwa [hsame] at h

/-- A keyword consists of letters. -/
theorem isBare_of_isKeyword
    {name : String}
    (h : isKeyword name = true) :
    Graph.isBare name.toList = true := by
  have hkeywords : (keywords.all fun keyword =>
      !keyword.toList.isEmpty && keyword.toList.all Char.isAlpha) = true := by
    decide
  obtain ⟨keyword, hkeyword, heq⟩ := List.any_eq_true.1 h
  replace heq := of_decide_eq_true heq
  obtain ⟨hne, halpha⟩ : keyword.toList ≠ [] ∧ ∀ c ∈ keyword.toList, c.isAlpha = true := by
    simpa using List.all_eq_true.1 hkeywords keyword hkeyword
  have hname : ∀ c ∈ name.toList, isLetter c = true := by
    intro c hc
    have hmem : c.toLower ∈ keyword.toList := heq ▸ List.mem_map_of_mem hc
    simp [isLetter, isAlpha_of_isAlpha_toLower (halpha _ hmem)]
  refine (isBare_eq_true_iff _).2 ?_
  cases htext : name.toList with
  | nil =>
      rw [htext] at heq
      exact absurd heq.symm hne
  | cons first rest =>
      rw [htext] at hname
      exact ⟨first, rest, rfl, hname first (by simp), fun c hc =>
        .inl (hname c (by simp [hc]))⟩

theorem denotes?_nameToken
    (name : String) :
    (nameToken name).denotes? = if isKeyword name then none else some name := by
  unfold nameToken
  split_ifs with hbare hkeyword hkeyword
  · simp [Token.denotes?, hkeyword]
  · simp [Token.denotes?, hkeyword]
  · exact absurd (isBare_of_isKeyword hkeyword) hbare
  · rfl

example : (nameToken "say \"hi\"").denotes? = some "say \"hi\"" ∧
    (nameToken "Strict").denotes? = none := by
  decide +kernel

end Dot
end Flowchart
