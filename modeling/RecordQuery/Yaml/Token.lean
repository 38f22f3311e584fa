import RecordQuery.Yaml.Characters

/-!
# Tokens and positions

A document is read as a list of tokens. Indentation has become tokens of its own by then: a block
collection starts and ends with a token, as one in brackets does.

* `Cursor`: the characters that are left, with the line and the column of the first of them.
* `normalized`: all the ways to end a line but two are one character, the line feed.
-/

namespace RecordQuery.Yaml

/-- A token of a document. -/
inductive Token where
  | versionDirective (major minor : Nat)
  | tagDirective (handle : String) (lead : Option String)
  | documentStart
  | documentEnd
  | blockSequenceStart
  | blockMappingStart
  | blockEnd
  | flowSequenceStart
  | flowSequenceEnd
  | flowMappingStart
  | flowMappingEnd
  | blockEntry
  | flowEntry
  | key
  | value
  | alias (name : String)
  | anchor (name : String)
  /-- A tag by its handle and the rest, which is absent if its bytes are no text. -/
  | tag (handle : String) (suffix : Option String)
  | scalar (text : String) (plain : Bool)
  deriving DecidableEq

/-- The text with each line end as one character. A line feed stands for every line end but the
two separators, which are kept. -/
def normalized : List Char → List Char
  | [] => []
  | '\r' :: '\n' :: cs => '\n' :: normalized cs
  | c :: cs => (if c = '\r' ∨ c = '\u0085' then '\n' else c) :: normalized cs

/-- A position in a text. -/
structure Cursor where
  rest : List Char
  line : Nat
  column : Nat

namespace Cursor

/-- The start of a text. -/
def start (cs : List Char) : Cursor := ⟨cs, 0, 0⟩

/-- The position after the first character. -/
def next (c : Cursor) : Cursor :=
  match c.rest with
  | [] => c
  | a :: cs => if isBreak a then ⟨cs, c.line + 1, 0⟩ else ⟨cs, c.line, c.column + 1⟩

/-- The position after `n` characters. -/
def skip : Nat → Cursor → Cursor
  | 0, c => c
  | n + 1, c => skip n c.next

/-- The characters at the front that satisfy `p`. -/
def span (p : Char → Bool) (c : Cursor) : List Char := c.rest.takeWhile p

/-- The position after the characters that satisfy `p`. -/
def skipWhile (p : Char → Bool) (c : Cursor) : Cursor := c.skip (c.span p).length

/-- A line that opens or closes a document starts here. -/
def atMarker (c : Cursor) : Bool :=
  c.column == 0 &&
    match c.rest with
    | '-' :: '-' :: '-' :: cs => atBlank cs
    | '.' :: '.' :: '.' :: cs => atBlank cs
    | _ => false

/-- The line is over. -/
def atLineEnd (c : Cursor) : Bool := c.rest.head?.all isBreak

/-- The position after the blanks of the line and a comment. -/
def skipComment (c : Cursor) : Cursor :=
  let c := c.skipWhile isGap
  if c.rest.head? = some '#' then c.skipWhile fun a => !isBreak a else c

end Cursor

/-- A step that reads something and moves on, or fails. -/
abbrev Scan (α : Type) := Cursor → Option (α × Cursor)

end RecordQuery.Yaml
