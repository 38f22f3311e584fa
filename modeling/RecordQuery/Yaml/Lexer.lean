import RecordQuery.Yaml.Tag

/-!
# From characters to tokens

Outside of brackets the columns decide: a token further right than the collection it is in can
start a collection, and one further left ends collections. A key on one line is known as such only
at the colon after it. Until then it is a candidate, which holds the place in the token list where
the key token will be put. A candidate is given up when its line ends or becomes too long; one that
must be a key, because it stands where the entries of its collection start, is a failure then.

* `Lexer`: the position, the open collections, the candidates and the tokens so far.
* `Token.ofText?`: the tokens of a document.
-/

namespace RecordQuery.Yaml

/-- What may turn out to be a key. -/
structure Candidate where
  required : Bool
  /-- The number of tokens before it. -/
  place : Nat
  line : Nat
  column : Nat

/-- The state between two tokens. -/
structure Lexer where
  cursor : Cursor
  /-- The indentation of the open block collections, the innermost first. -/
  indents : List Nat
  /-- The candidate outside of brackets, if there is one. -/
  blockKey : Option Candidate
  /-- The candidates inside the open brackets, the innermost first. -/
  flowKeys : List (Option Candidate)
  /-- A key on one line may start here. -/
  keyAllowed : Bool
  /-- The tokens so far, the last one first. -/
  tokens : List Token

namespace Lexer

/-- The state before a text. -/
def start (cs : List Char) : Lexer := ⟨.start cs, [], none, [], true, []⟩

/-- Brackets are open. -/
def inFlow (s : Lexer) : Bool := !s.flowKeys.isEmpty

/-- The indentation of the innermost block collection. -/
def indent? (s : Lexer) : Option Nat := s.indents.head?

/-- The column where lines inside the innermost block collection start at the earliest. -/
def innerColumn (s : Lexer) : Nat := s.indent?.elim 0 (· + 1)

/-- The state with one more token. -/
def push (s : Lexer) (t : Token) : Lexer := { s with tokens := t :: s.tokens }

/-- Puts a token into the list after the first `place` ones. -/
def insertAt (s : Lexer) (place : Nat) (t : Token) : Lexer :=
  let later := s.tokens.length - place
  { s with tokens := s.tokens.take later ++ t :: s.tokens.drop later }

/-! ## Candidates -/

/-- The candidate inside the innermost brackets, or outside of all. -/
def candidate? (s : Lexer) : Option Candidate :=
  match s.flowKeys with
  | [] => s.blockKey
  | k :: _ => k

/-- The state with another candidate in the place of the innermost one. -/
def setCandidate (s : Lexer) (k : Option Candidate) : Lexer :=
  match s.flowKeys with
  | [] => { s with blockKey := k }
  | _ :: ks => { s with flowKeys := k :: ks }

/-- The longest key that is found without a question mark. -/
def keyLimit : Nat := 1024

/-- A candidate whose line is over or has become too long. -/
def isStale (s : Lexer) (k : Candidate) : Bool :=
  k.line < s.cursor.line || k.column + keyLimit < s.cursor.column

/-- A slot without its stale candidate; fails if that one must be a key. -/
def freshen (s : Lexer) : Option Candidate → Option (Option Candidate)
  | none => some none
  | some k =>
    if s.isStale k then (if k.required then none else some none) else some (some k)

/-- The state without stale candidates. -/
def dropStale (s : Lexer) : Option Lexer := do
  let blockKey ← s.freshen s.blockKey
  let flowKeys ← s.flowKeys.mapM s.freshen
  return { s with blockKey, flowKeys }

/-- The state without the innermost candidate; fails if that one must be a key. -/
def dropCandidate (s : Lexer) : Option Lexer :=
  if s.candidate?.any (·.required) then none else some (s.setCandidate none)

/-- The state with a candidate at the position, where one may start. -/
def saveCandidate (s : Lexer) : Option Lexer :=
  if s.keyAllowed then do
    let dropped ← s.dropCandidate
    let required := !s.inFlow && s.indent? == some s.cursor.column
    return dropped.setCandidate
      (some ⟨required, s.tokens.length, s.cursor.line, s.cursor.column⟩)
  else some s

/-! ## Block collections -/

/-- The block collections that are indented further than a column, which end before it. -/
def closeTo (s : Lexer) (column : Nat) : Lexer :=
  if s.inFlow then s
  else
    let closed := s.indents.takeWhile (column < ·)
    { s with
      indents := s.indents.drop closed.length
      tokens := List.replicate closed.length .blockEnd ++ s.tokens }

/-- The end of all block collections. -/
def closeAll (s : Lexer) : Lexer :=
  if s.inFlow then s
  else { s with indents := [], tokens := List.replicate s.indents.length .blockEnd ++ s.tokens }

/-- Opens a block collection at a column right of the innermost one, its token being put in after
the first `place` ones. -/
def openAt (s : Lexer) (column place : Nat) (t : Token) : Lexer :=
  if s.inFlow || s.indent?.any (column ≤ ·) then s
  else { s.insertAt place t with indents := column :: s.indents }

/-- Opens a block collection at the position, where the first of its entries may stand. -/
def openHere (s : Lexer) (t : Token) : Option Lexer :=
  if s.inFlow then some s
  else if s.keyAllowed then some (s.openAt s.cursor.column s.tokens.length t)
  else none

/-! ## Tokens -/

/-- The position after blanks, comments and empty lines. A byte order mark may start a line. A tab
counts as a blank only where no key may start. -/
def skipBlanks : Nat → Lexer → Lexer
  | 0, s => s
  | fuel + 1, s =>
    let c := if s.cursor.column = 0 ∧ s.cursor.rest.head? = some '\uFEFF' then s.cursor.next
      else s.cursor
    let c := c.skipWhile fun a => a == ' ' || ((s.inFlow || !s.keyAllowed) && a == '\t')
    let c := if c.rest.head? = some '#' then c.skipWhile fun a => !isBreak a else c
    if c.rest.head?.any isBreak then
      skipBlanks fuel { s with cursor := c.next, keyAllowed := s.keyAllowed || !s.inFlow }
    else { s with cursor := c }

/-- Passes `n` characters and pushes a token. -/
def take (s : Lexer) (n : Nat) (t : Token) : Lexer := { s with cursor := s.cursor.skip n }.push t

/-- Reads a token with a scan. -/
def scanToken (s : Lexer) (scan : Scan Token) : Option Lexer :=
  (scan s.cursor).map fun (t, c) => { s with cursor := c }.push t

/-- The state in which a key on one line may start, or may not. -/
def allowKey (s : Lexer) (keyAllowed : Bool) : Lexer := { s with keyAllowed }

/-- A token at the start of a line that belongs to no collection. -/
def lineToken (s : Lexer) (scan : Scan Token) : Option Lexer := do
  let s ← s.closeAll.dropCandidate
  (s.allowKey false).scanToken scan

/-- A token that may be a key, or the start of one. -/
def keyToken (s : Lexer) (scan : Scan Token) : Option Lexer := do
  let s ← s.saveCandidate
  (s.allowKey false).scanToken scan

/-- An opening bracket. -/
def openBracket (s : Lexer) (t : Token) : Option Lexer := do
  let s ← s.saveCandidate
  return ({ s with flowKeys := none :: s.flowKeys }.allowKey true).take 1 t

/-- A closing bracket, which may lack an opening one. -/
def closeBracket (s : Lexer) (t : Token) : Option Lexer := do
  let s ← s.dropCandidate
  return ({ s with flowKeys := s.flowKeys.drop 1 }.allowKey false).take 1 t

/-- A comma between brackets. -/
def comma (s : Lexer) : Option Lexer := do
  let s ← s.dropCandidate
  return (s.allowKey true).take 1 .flowEntry

/-- The mark of an item. -/
def itemMark (s : Lexer) : Option Lexer := do
  let s ← s.openHere .blockSequenceStart
  let s ← s.dropCandidate
  return (s.allowKey true).take 1 .blockEntry

/-- The mark of a key that is not found by its colon. -/
def keyMark (s : Lexer) : Option Lexer := do
  let s ← s.openHere .blockMappingStart
  let s ← s.dropCandidate
  return (s.allowKey !s.inFlow).take 1 .key

/-- A colon. The candidate before it becomes a key, and may start a mapping. -/
def colon (s : Lexer) : Option Lexer :=
  match s.candidate? with
  | some k =>
    let s := (s.insertAt k.place .key).openAt k.column k.place .blockMappingStart
    some (((s.setCandidate none).allowKey false).take 1 .value)
  | none => do
    let s ← s.openHere .blockMappingStart
    return (s.allowKey !s.inFlow).take 1 .value

/-- A plain scalar. If a line ends after it, a key may start next. -/
def plainToken (s : Lexer) : Option Lexer := do
  let s ← s.saveCandidate
  let (text, newLine, c) ← plainScalar s.inFlow s.innerColumn s.cursor
  return ({ s with cursor := c }.allowKey newLine).push (.scalar (String.ofList text) true)

/-- A scalar that is not plain. -/
def scalarToken (scan : Scan (List Char)) : Scan Token := fun c =>
  (scan c).map fun (text, c) => (.scalar (String.ofList text) false, c)

/-- A scalar as a block. -/
def blockToken (s : Lexer) (folded : Bool) : Option Lexer := do
  let s ← s.dropCandidate
  (s.allowKey true).scanToken (scalarToken (blockScalar folded s.indent?))

/-- The characters that start a token of their own wherever they stand. -/
def firstMarks : List Char :=
  ['-', '?', ':', ',', '[', ']', '{', '}', '#', '&', '*', '!', '|', '>', '\'', '"', '%', '@',
   '\x60']

/-- A plain scalar can start with the character, which others follow. -/
def startsPlain (s : Lexer) (a : Char) (cs : List Char) : Bool :=
  !(isGap a || isBreak a || firstMarks.contains a) || a == '-' ||
    (!s.inFlow && (a == '?' || a == ':') && !atBlank cs)

/-- The state after the token that starts with a character, which others follow. -/
def readToken (s : Lexer) (a : Char) (cs : List Char) : Option Lexer :=
  if s.cursor.column = 0 ∧ a = '%' then s.lineToken directive
  else if s.cursor.atMarker then
    s.lineToken fun c => some (if a = '-' then .documentStart else .documentEnd, c.skip 3)
  else if a = '[' then s.openBracket .flowSequenceStart
  else if a = '{' then s.openBracket .flowMappingStart
  else if a = ']' then s.closeBracket .flowSequenceEnd
  else if a = '}' then s.closeBracket .flowMappingEnd
  else if a = ',' then s.comma
  else if a = '-' ∧ atBlank cs then s.itemMark
  else if a = '?' ∧ (s.inFlow ∨ atBlank cs) then s.keyMark
  else if a = ':' ∧ (s.inFlow ∨ atBlank cs) then s.colon
  else if a = '*' then s.keyToken fun c => (anchorName c).map fun (n, c) => (.alias n, c)
  else if a = '&' then s.keyToken fun c => (anchorName c).map fun (n, c) => (.anchor n, c)
  else if a = '!' then s.keyToken (tagToken s.inFlow)
  else if a = '|' ∧ !s.inFlow then s.blockToken false
  else if a = '>' ∧ !s.inFlow then s.blockToken true
  else if a = '\'' then s.keyToken (scalarToken (quotedScalar false))
  else if a = '"' then s.keyToken (scalarToken (quotedScalar true))
  else if s.startsPlain a cs then s.plainToken
  else none

/-- The tokens from a state on, in order. -/
def run : Nat → Lexer → Option (List Token)
  | 0, _ => none
  | fuel + 1, s => do
    let s := s.skipBlanks (s.cursor.rest.length + 1)
    match s.cursor.rest with
    | [] =>
      let s := { s with cursor := { s.cursor with line := s.cursor.line + 1, column := 0 } }
      let s ← s.closeAll.dropCandidate
      return s.tokens.reverse
    | a :: cs =>
      let s ← s.dropStale
      let s ← (s.closeTo s.cursor.column).readToken a cs
      run fuel s

end Lexer

/-- The tokens of a document; none if a character or a token is out of place. -/
def Token.ofText? (text : List Char) : Option (List Token) :=
  if text.all isAdmitted then Lexer.run (text.length + 1) (.start (normalized text)) else none

end RecordQuery.Yaml
