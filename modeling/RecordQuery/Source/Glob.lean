import RecordQuery.Text.Blank

/-!
# Glob patterns

Patterns over paths. A question mark is one character and an asterisk any number of them, never a
slash; brackets hold a class; braces hold alternatives, and a backslash takes the next character as
it is. Two asterisks between slashes, or at one end, stand for any number of directories.

* `Glob.parse?`: a pattern is a list of alternatives without braces.
* `Glob.matches`: one of them matches the whole path.
-/

namespace RecordQuery.Source

/-- A part of a pattern without braces. -/
inductive GlobToken where
  | literal (c : Char)
  | anyChar
  | oneOf (negated : Bool) (ranges : List (Char × Char))
  | asterisk
  /-- Any number of directories at the start, with the slashes after them. -/
  | leadingDirectories
  /-- Any number of directories between two slashes, which are part of it. -/
  | innerDirectories
  /-- Everything below a directory, with the slash before it. -/
  | everythingBelow
  deriving DecidableEq

/-- A part of a pattern. -/
inductive GlobPiece where
  | token (t : GlobToken)
  | choice (options : List (List GlobPiece))

/-- A pattern: it matches what one of its alternatives matches. -/
structure Glob where
  alternatives : List (List GlobToken)

namespace Glob

/-! ## Matching -/

/-- What may be left of a path after some characters of its first segment. -/
def withinSegment : List Char → List (List Char)
  | [] => [[]]
  | c :: cs => (c :: cs) :: if c = '/' then [] else withinSegment cs

/-- What may be left of a path after any of its characters. -/
def suffixes : List Char → List (List Char)
  | [] => [[]]
  | c :: cs => (c :: cs) :: suffixes cs

/-- What may be left of a path after one of its slashes. -/
def afterSlash : List Char → List (List Char)
  | [] => []
  | c :: cs => if c = '/' then cs :: afterSlash cs else afterSlash cs

/-- What may be left of a path after one part of a pattern. -/
def step : GlobToken → List Char → List (List Char)
  | .literal a, c :: cs => if c = a then [cs] else []
  | .anyChar, c :: cs => if c = '/' then [] else [cs]
  | .oneOf negated ranges, c :: cs =>
    if (ranges.any fun r => r.1 ≤ c && c ≤ r.2) != negated then [cs] else []
  | .asterisk, cs => withinSegment cs
  | .leadingDirectories, cs => cs :: afterSlash cs
  | .innerDirectories, '/' :: cs => cs :: afterSlash cs
  | .everythingBelow, '/' :: cs => suffixes cs
  | _, _ => []

/-- The parts of a pattern match the whole path. -/
def matchesAll : List GlobToken → List Char → Bool
  | [], cs => cs.isEmpty
  | t :: ts, cs => (step t cs).any (matchesAll ts)

/-- The pattern matches the whole path. -/
def «matches» (g : Glob) (path : String) : Bool :=
  g.alternatives.any fun ts => matchesAll ts path.toList

/-! ## Reading -/

/-- The ranges of a class up to its closing bracket. A hyphen between two characters makes a range,
and a bracket that comes first is a character. `pending` says that a hyphen was read last. -/
def classRanges : List (Char × Char) → Bool → List Char → Option (List (Char × Char) × List Char)
  | _, _, [] => none
  | ranges, pending, c :: cs =>
    if c = ']' ∧ ranges ≠ [] then
      some ((if pending then ('-', '-') :: ranges else ranges).reverse, cs)
    else match pending, ranges with
      | true, (first, _) :: before =>
        if c < first then none else classRanges ((first, c) :: before) false cs
      | _, [] => classRanges [(c, c)] false cs
      | _, ranges =>
        if c = '-' then classRanges ranges true cs else classRanges ((c, c) :: ranges) false cs

/-- A class, from after its opening bracket. -/
def readClass? (cs : List Char) : Option (GlobToken × List Char) :=
  let negated := cs.head?.any fun c => c = '!' || c = '^'
  (classRanges [] false (if negated then cs.tail else cs)).map fun (ranges, rest) =>
    (.oneOf negated ranges, rest)

/-- Two asterisks, from after them: the parts read so far with what they stand for, and the rest.
They stand for directories only if a slash, or an end, is on both sides. -/
def readDirectories (inChoice : Bool) (before : List GlobPiece) (previous : Option Char)
    (cs : List Char) : List GlobPiece × List Char :=
  let plain := (.token .asterisk :: .token .asterisk :: before, cs)
  match before with
  | [] =>
    match cs with
    | [] => ([.token .leadingDirectories], [])
    | '/' :: cs => ([.token .leadingDirectories], cs)
    | _ => plain
  | last :: earlier =>
    if previous ≠ some '/' then plain
    else
      let replace (t : GlobToken) : List GlobPiece :=
        match last with
        | .token .leadingDirectories | .token .everythingBelow => last :: earlier
        | _ => .token t :: earlier
      match cs with
      | [] => (replace .everythingBelow, [])
      | '/' :: cs => (replace .innerDirectories, cs)
      | c :: cs =>
        if inChoice && (c == ',' || c == '}') then (replace .everythingBelow, c :: cs) else plain

mutual

/-- The parts of a pattern up to its end, or inside braces up to a comma or the closing one.
`before` holds the parts so far, the last one first. -/
def readPieces : Nat → Bool → List GlobPiece → Option Char → List Char →
    Option (List GlobPiece × List Char)
  | 0, _, _, _, _ => none
  | fuel + 1, inChoice, before, previous, cs =>
    match cs with
    | [] => if inChoice then none else some (before.reverse, [])
    | '?' :: cs => readPieces fuel inChoice (.token .anyChar :: before) (some '?') cs
    | '*' :: '*' :: cs =>
      let (pieces, rest) := readDirectories inChoice before previous cs
      readPieces fuel inChoice pieces (if rest.length < cs.length then some '/' else some '*') rest
    | '*' :: cs => readPieces fuel inChoice (.token .asterisk :: before) (some '*') cs
    | '[' :: cs =>
      match readClass? cs with
      | none => none
      | some (t, rest) => readPieces fuel inChoice (.token t :: before) (some ']') rest
    | '{' :: cs =>
      match readOptions fuel '{' cs with
      | none => none
      | some (options, rest) =>
        readPieces fuel inChoice (.choice options :: before) (some '}') rest
    | '\\' :: [] => none
    | '\\' :: c :: cs => readPieces fuel inChoice (.token (.literal c) :: before) (some c) cs
    | c :: cs =>
      if c = '}' then if inChoice then some (before.reverse, c :: cs) else none
      else if c = ',' ∧ inChoice then some (before.reverse, c :: cs)
      else readPieces fuel inChoice (.token (.literal c) :: before) (some c) cs

/-- The alternatives between braces, from after the opening one or a comma. -/
def readOptions : Nat → Char → List Char → Option (List (List GlobPiece) × List Char)
  | 0, _, _ => none
  | fuel + 1, previous, cs =>
    match readPieces fuel true [] (some previous) cs with
    | some (option, ',' :: rest) =>
      (readOptions fuel ',' rest).map fun (options, rest) => (option :: options, rest)
    | some (option, '}' :: rest) => some ([option], rest)
    | _ => none

end

/-! ## Alternatives -/

/-- The alternatives that are not empty, or the empty one if there is no other. -/
def dropEmpty (alternatives : List (List GlobToken)) : List (List GlobToken) :=
  match alternatives.filter fun ts => !ts.isEmpty with
  | [] => [[]]
  | rest => rest

mutual

/-- The patterns without braces that a piece stands for. -/
def expandPiece : GlobPiece → List (List GlobToken)
  | .token t => [[t]]
  | .choice options => dropEmpty (expandOptions options)

/-- The patterns without braces that a list of pieces stands for. -/
def expandPieces : List GlobPiece → List (List GlobToken)
  | [] => [[]]
  | p :: ps =>
    let rest := expandPieces ps
    (expandPiece p).flatMap fun ts => rest.map (ts ++ ·)

/-- The patterns without braces that the alternatives stand for. -/
def expandOptions : List (List GlobPiece) → List (List GlobToken)
  | [] => []
  | option :: options => expandPieces option ++ expandOptions options

end

/-- The pattern that matches every path. -/
def everything : Glob := ⟨[[.leadingDirectories, .asterisk]]⟩

/-- The pattern that a text writes; none if a bracket or a brace is left open. Two asterisks alone
match everything. -/
def parse? (text : List Char) : Option Glob :=
  match readPieces (2 * text.length + 2) false [] none text with
  | some ([.token .leadingDirectories], _) => some everything
  | some (pieces, _) => some ⟨expandPieces pieces⟩
  | none => none

end Glob

end RecordQuery.Source
