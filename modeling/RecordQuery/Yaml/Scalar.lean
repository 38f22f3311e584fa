import RecordQuery.Yaml.Token
import RecordQuery.Number.Numeral
import RecordQuery.Text.Blank

/-!
# Reading scalars

A scalar stands plainly, between quotes, or as a block of lines. In the first two, what lies
between two words is folded: blanks around a line end are dropped, a single line feed becomes a
space, and of several the first one is dropped. A block keeps its lines, or folds those that are
not indented further.

* `Gap`: what lies between two words, and `Gap.folded`.
* `plainScalar`, `quotedScalar`, `blockScalar`.
-/

namespace RecordQuery.Yaml

/-! ## Gaps -/

/-- The blanks and line ends between two words. -/
structure Gap where
  chars : List Char

namespace Gap

/-- A character that a gap between two words is made of. -/
def isGapOrBreak (c : Char) : Bool := isGap c || isBreak c

/-- The gap at a position. -/
def ofCursor (c : Cursor) : Gap := ⟨c.span isGapOrBreak⟩

/-- The line ends of a gap. -/
def breaks (g : Gap) : List Char := g.chars.filter isBreak

/-- Line ends between two words: a lone line feed is a space, and the first of several is
dropped; a separator is kept. -/
def foldBreaks : List Char → List Char
  | [] => []
  | '\n' :: [] => [' ']
  | '\n' :: more => more
  | bs => bs

/-- What a gap between two words stands for. -/
def folded (g : Gap) : List Char :=
  if g.breaks.isEmpty then g.chars else foldBreaks g.breaks

/-- A tab stands left of a column on a line that starts in the gap. -/
def hasTabBefore (column : Nat) (g : Gap) : Bool :=
  ((Text.splitWhere isBreak g.chars).drop 1).any fun line => (line.take column).contains '\t'

end Gap

/-! ## Plain scalars -/

/-- The marks that end a plain scalar between brackets. -/
def isFlowMark (c : Char) : Bool := [',', '[', ']', '{', '}'].contains c

/-- A word of a plain scalar: up to a blank, a colon before a blank, or between brackets one of
their marks. There a colon before such a mark or a question mark is refused. -/
def plainWord (flow : Bool) : List Char → Option (List Char)
  | [] => some []
  | c :: cs =>
    if isGap c || isBreak c then some []
    else if flow && c == ':' && cs.head?.any (fun a => isFlowMark a || a == '?') then none
    else if (c == ':' && atBlank cs) || (flow && isFlowMark c) then some []
    else (plainWord flow cs).map (c :: ·)

/-- The words of a plain scalar from a position, each with the folded gap before it, and whether
the last gap ended a line. `gap` is the folded text before the next word. -/
def plainWords (flow : Bool) (indent : Nat) :
    Nat → List Char → Bool → Cursor → Option (List Char × Bool × Cursor)
  | 0, _, _, _ => none
  | fuel + 1, gap, newLine, c =>
    if c.atMarker || c.rest.head? = some '#' then some ([], newLine, c)
    else (plainWord flow c.rest).bind fun word =>
      let text := if word.isEmpty then [] else gap ++ word
      let newLine := newLine && word.isEmpty
      let c := c.skip word.length
      if !(c.rest.head?.any Gap.isGapOrBreak) then some (text, newLine, c)
      else
        let g := Gap.ofCursor c
        if g.hasTabBefore indent then none
        else
          let after := c.skip g.chars.length
          let newLine := !g.breaks.isEmpty
          if !flow && after.column < indent then some (text, newLine, after)
          else (plainWords flow indent fuel g.folded newLine after).map fun r =>
            (text ++ r.1, r.2)

/-- A plain scalar with lines indented by `indent`: its text, and whether a line ended after it. -/
def plainScalar (flow : Bool) (indent : Nat) (c : Cursor) : Option (List Char × Bool × Cursor) :=
  plainWords flow indent (c.rest.length + 1) [] false c

/-! ## Quoted scalars -/

/-- The character that an escape of one letter stands for. -/
def escapeLetter? (c : Char) : Option Char :=
  [('0', '\x00'), ('a', '\x07'), ('b', '\x08'), ('t', '\t'), ('\t', '\t'), ('n', '\n'),
   ('v', '\x0B'), ('f', '\x0C'), ('r', '\r'), ('e', '\x1B'), (' ', ' '), ('"', '"'), ('/', '/'),
   ('\\', '\\'), ('N', '\u0085'), ('_', '\u00A0'), ('L', '\u2028'), ('P', '\u2029')].lookup c

/-- The number of hexadecimal digits after the letter of an escape. -/
def escapeWidth? (c : Char) : Option Nat := [('x', 2), ('u', 4), ('U', 8)].lookup c

/-- The character with a code point, if it has one. -/
def charOf? (n : Nat) : Option Char := if n.isValidChar then some (Char.ofNat n) else none

/-- The character that an escape stands for and the length of what follows the backslash. -/
def escape? : List Char → Option (Char × Nat)
  | [] => none
  | c :: cs =>
    match escapeLetter? c, escapeWidth? c with
    | some a, _ => some (a, 1)
    | none, some width =>
      if cs.length < width then none
      else (Numeral.natInBase? 16 (cs.take width)).bind fun n =>
        (charOf? n).map fun a => (a, width + 1)
    | none, none => none

/-- The text from a position up to the closing quote, which is passed. -/
def quotedText (double : Bool) : Nat → Scan (List Char)
  | 0, _ => none
  | fuel + 1, c =>
    let more (text : List Char) (c : Cursor) : Option (List Char × Cursor) :=
      (quotedText double fuel c).map fun r => (text ++ r.1, r.2)
    if c.atMarker then none
    else match c.rest with
      | [] => none
      | a :: cs =>
        if Gap.isGapOrBreak a then
          let g := Gap.ofCursor c
          more g.folded (c.skip g.chars.length)
        else if double && a == '"' then some ([], c.next)
        else if double && a == '\\' then
          if cs.head?.any isBreak then
            let after := c.skip 2
            let g := Gap.ofCursor after
            more g.breaks (after.skip g.chars.length)
          else (escape? cs).bind fun r => more [r.1] (c.skip (r.2 + 1))
        else if !double && a == '\'' then
          if cs.head? = some '\'' then more ['\''] (c.skip 2) else some ([], c.next)
        else more [a] c.next

/-- A scalar between quotes, from the opening one. -/
def quotedScalar (double : Bool) : Scan (List Char) := fun c =>
  quotedText double c.rest.length c.next

/-! ## Blocks -/

/-- What happens to the line ends at the end of a block. -/
inductive Chomping where
  | strip
  | clip
  | keep
  deriving DecidableEq

/-- The chomping that a mark asks for. -/
def chomping? : Char → Option Chomping
  | '-' => some .strip
  | '+' => some .keep
  | _ => none

/-- The header of a block after its mark: the chomping and the indentation, `0` if it is left
open, in either order. -/
def blockMarks : Scan (Chomping × Nat) := fun c =>
  let digit? (cs : List Char) : Option Nat :=
    match cs with
    | d :: _ => if d.isDigit then some (d.toNat - '0'.toNat) else none
    | [] => none
  let found : Option (Chomping × Nat × Cursor) :=
    match c.rest with
    | [] => some (.clip, 0, c)
    | a :: cs =>
      match chomping? a, digit? (a :: cs) with
      | some chomping, _ =>
        match digit? cs with
        | some 0 => none
        | some n => some (chomping, n, c.skip 2)
        | none => some (chomping, 0, c.next)
      | none, some 0 => none
      | none, some n =>
        match cs.head?.bind chomping? with
        | some chomping => some (chomping, n, c.skip 2)
        | none => some (.clip, n, c.next)
      | none, none => some (.clip, 0, c)
  found.bind fun (chomping, increment, c) =>
    let c := c.skipComment
    if c.atLineEnd then some ((chomping, increment), c.next) else none

/-- The empty lines and the indentation at a position, where an indentation of `0` is still to be
found: the line ends, the widest indentation and the position. A tab in the indentation is
refused. -/
def blockBreaks (indent : Nat) : Nat → Nat → Cursor → Option (List Char × Nat × Cursor)
  | 0, _, _ => none
  | fuel + 1, widest, c =>
    let inside := indent = 0 ∨ c.column < indent
    match c.rest with
    | ' ' :: _ =>
      if inside then blockBreaks indent fuel widest c.next else some ([], max widest c.column, c)
    | '\t' :: _ => if inside then none else some ([], max widest c.column, c)
    | a :: _ =>
      if isBreak a then
        (blockBreaks indent fuel (max widest c.column) c.next).map fun r => (a :: r.1, r.2)
      else some ([], max widest c.column, c)
    | [] => some ([], max widest c.column, c)

/-- The line end after a line of a block and the empty lines after it. A folded one between two
lines that do not start with a blank is a space, or nothing before empty lines. -/
def joinLines (folded : Bool) (ending empties : List Char) (before after : Bool) : List Char :=
  if folded && ending == ['\n'] && !before && !after then
    if empties.isEmpty then [' '] else empties
  else ending ++ empties

/-- The lines of a block from a position at the start of one or past the last. `ending` is the line
end before, `empties` the empty lines after it, and `blank` says that the line before starts with
a blank. -/
def blockLines (folded : Bool) (indent : Nat) (chomping : Chomping) :
    Nat → List Char → List Char → Bool → Scan (List Char)
  | 0, _, _, _, _ => none
  | fuel + 1, ending, empties, blank, c =>
    match c.rest with
    | a :: _ =>
      if c.column = indent then
        let line := c.span fun a => !isBreak a
        let after := c.skip line.length
        let next := after.rest.take 1
        (blockBreaks indent (after.rest.length + 1) 0 after.next).bind fun (breaks, _, c) =>
          (blockLines folded indent chomping fuel next breaks (isGap a) c).map fun r =>
            (joinLines folded ending empties blank (isGap a) ++ line ++ r.1, r.2)
      else some (tail ending empties, c)
    | [] => some (tail ending empties, c)
where
  /-- The line ends that are kept at the end. -/
  tail (ending empties : List Char) : List Char :=
    match chomping with
    | .strip => []
    | .clip => ending
    | .keep => ending ++ empties

/-- A block from its mark on, inside a collection that is indented by `parent`, none at the
root. -/
def blockScalar (folded : Bool) (parent : Option Nat) : Scan (List Char) := fun c =>
  (blockMarks c.next).bind fun ((chomping, increment), c) =>
    let fixed := if increment = 0 then 0 else parent.getD 0 + increment
    (blockBreaks fixed (c.rest.length + 1) 0 c).bind fun (breaks, widest, c) =>
      let least := parent.elim 1 (· + 1)
      let indent := if fixed = 0 then max widest least else fixed
      blockLines folded indent chomping (c.rest.length + 1) [] breaks false c

end RecordQuery.Yaml
