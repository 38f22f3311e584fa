import RecordQuery.Yaml.Characters
import RecordQuery.Yaml.Plain

/-!
# The written forms of a text

A text is written plainly, between single quotes, between double quotes with escapes, or as a
literal block of lines. A text with a line feed asks for a block, one that would not mean itself
asks for single quotes, and any other is written plainly; a form that the characters of the text
forbid gives way to the next one that they allow.

* `Form.ofText`: the form of a text.
* `plainAllowed`, `singleAllowed`, `blockAllowed`: what the characters allow.
-/

namespace RecordQuery.Yaml

/-- The form a text is written in. -/
inductive Form where
  | plain
  | single
  | double
  | block
  deriving DecidableEq

/-- The characters that cannot start a plain text. -/
def plainStops : List Char :=
  ['#', ',', '[', ']', '{', '}', '&', '*', '!', '|', '>', '\'', '"', '%', '@', '\x60']

/-- A plain text starting like this would be taken for something else. -/
def hasIndicatorFirst : List Char → Bool
  | [] => false
  | c :: cs => plainStops.contains c || ((c == '?' || c == ':' || c == '-') && atBlank cs)

/-- A plain text holds a colon before a blank, or a number sign after one. -/
def hasIndicatorInside : List Char → Bool
  | [] => false
  | [_] => false
  | a :: c :: cs =>
    (c == ':' && atBlank cs) || (c == '#' && atBlank [a]) || hasIndicatorInside (c :: cs)

/-- The text starts like the line that opens or closes a document. -/
def startsAsMarker (cs : List Char) : Bool :=
  ['-', '-', '-'].isPrefixOf cs || ['.', '.', '.'].isPrefixOf cs

/-- Two neighbours with the given properties occur in the text. -/
def hasPair (p q : Char → Bool) (cs : List Char) : Bool :=
  (cs.zip cs.tail).any fun (a, b) => p a && q b

/-- A space, which unlike a tab is written as it is. -/
def isSpace (c : Char) : Bool := c == ' '

/-- A space before a break would be lost in every form but the escaped one. -/
def hasSpaceBreak (cs : List Char) : Bool := hasPair isSpace isBreak cs

/-- A space after a break would be lost between quotes. -/
def hasBreakSpace (cs : List Char) : Bool := hasPair isBreak isSpace cs

/-- Every character shows as itself. -/
def isAllPrintable (cs : List Char) : Bool := cs.all isPrintable

/-- The text can stand between single quotes. -/
def singleAllowed (cs : List Char) : Bool :=
  isAllPrintable cs && !hasSpaceBreak cs && !hasBreakSpace cs

/-- The text can stand as a block. -/
def blockAllowed (cs : List Char) : Bool :=
  !cs.isEmpty && isAllPrintable cs && !hasSpaceBreak cs && cs.getLast?.all fun c => !isSpace c

/-- The text can stand without quotes, whatever it would mean. -/
def plainAllowed (cs : List Char) : Bool :=
  isAllPrintable cs && cs.all (fun c => !isBreak c) &&
    cs.head?.all (fun c => !isSpace c) && cs.getLast?.all (fun c => !isSpace c) &&
    !hasIndicatorFirst cs && !hasIndicatorInside cs && !startsAsMarker cs

namespace Form

/-- The form of a text. -/
def ofText (s : String) : Form :=
  let cs := s.toList
  if cs.contains '\n' then if blockAllowed cs then .block else .double
  else if Plain.isText s && plainAllowed cs then .plain
  else if singleAllowed cs then .single
  else .double

/-! ## Writing -/

/-- An escaped character. -/
def escape (c : Char) : List Char :=
  let n := c.toNat
  if c = '\x00' then ['\\', '0']
  else if n = 0x07 then ['\\', 'a']
  else if n = 0x08 then ['\\', 'b']
  else if c = '\t' then ['\\', 't']
  else if c = '\n' then ['\\', 'n']
  else if n = 0x0B then ['\\', 'v']
  else if n = 0x0C then ['\\', 'f']
  else if c = '\r' then ['\\', 'r']
  else if n = 0x1B then ['\\', 'e']
  else if c = '"' then ['\\', '"']
  else if c = '\\' then ['\\', '\\']
  else if n = 0x85 then ['\\', 'N']
  else if n = 0x2028 then ['\\', 'L']
  else if n = 0x2029 then ['\\', 'P']
  else if n ≤ 0xFF then '\\' :: 'x' :: hexUpper 2 n
  else if n ≤ 0xFFFF then '\\' :: 'u' :: hexUpper 4 n
  else '\\' :: 'U' :: hexUpper 8 n

/-- A character between double quotes. -/
def doubleChar (c : Char) : List Char :=
  if !isPrintable c || isBreak c || c == '"' || c == '\\' then escape c else [c]

/-- Lines with their breaks, where each line that starts with a character other than a break is
indented. `pending` says that the next character starts a line. -/
def indentLines (indent : Nat) (write : Char → List Char) : Bool → List Char → List Char
  | _, [] => []
  | pending, c :: cs =>
    if isBreak c then c :: indentLines indent write true cs
    else (if pending then List.replicate indent ' ' else []) ++ write c ++
      indentLines indent write false cs

/-- A text between single quotes, where a quote is doubled. After a break the closing quote is
indented as well. -/
def singleText (indent : Nat) (cs : List Char) : List Char :=
  let body := indentLines indent (fun c => if c = '\'' then ['\'', '\''] else [c]) false cs
  let closing := if cs.getLast?.any isBreak then List.replicate indent ' ' else []
  '\'' :: body ++ closing ++ ['\'']

/-- The header of a block: a mark for the indentation if the text starts with a space or a break,
and one for the breaks at its end unless there is exactly one after a line. -/
def blockHeader (cs : List Char) : List Char :=
  let hint := if cs.head?.any fun c => isSpace c || isBreak c then ['2'] else []
  let ending := match cs.reverse with
    | c :: rest =>
      if !isBreak c then ['-']
      else match rest with
        | [] => ['+']
        | b :: _ => if isBreak b then ['+'] else []
    | [] => ['-']
  '|' :: hint ++ ending

/-- A text in a form, the lines of a block being indented. -/
def write (indent : Nat) (cs : List Char) : Form → List Char
  | .plain => cs
  | .single => singleText indent cs
  | .double => '"' :: cs.flatMap doubleChar ++ ['"']
  | .block => blockHeader cs ++ '\n' :: indentLines indent (fun c => [c]) true cs

end Form

end RecordQuery.Yaml
