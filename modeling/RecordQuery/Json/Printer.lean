import RecordQuery.Text.Quoted
import RecordQuery.Value.Basic

/-!
# Writing JSON

A value is written with an entry or an item per line, indented by two spaces. A key that is a
boolean or a number is written as its text; no other value than these and texts can be a key. A tag
becomes an object with one entry, and a number without a finite value becomes null.

* `Value.toJson`: the text of a value, or the first key that cannot be written.
-/

namespace RecordQuery.Json

/-- Why a value cannot be written. -/
inductive Unwritable where
  /-- A key is neither a text, nor a number, nor a boolean. -/
  | keyKind
  /-- A key is a number without a finite value. -/
  | infiniteKey
  deriving DecidableEq

/-- The wording of the reason. -/
def Unwritable.message : Unwritable → String
  | .keyKind => "key must be a string"
  | .infiniteKey => "float key must be finite (got NaN or +/-inf)"

/-- Floats are written positionally for exponents from -5 to 15 with at least one digit after the
point, otherwise with an exponent that has a sign; the special values become null. -/
def floatStyle : FloatStyle where
  plain := some (-5, 15)
  pointZero := true
  plusSign := true
  tie := .even
  nan := "null"
  infinity := "null"

/-- A character between quotes. -/
def quoteChar (c : Char) : List Char :=
  let n := c.toNat
  if c = '"' ∨ c = '\\' then ['\\', c]
  else if n = 0x08 then ['\\', 'b']
  else if n = 0x0C then ['\\', 'f']
  else if c = '\n' then ['\\', 'n']
  else if c = '\r' then ['\\', 'r']
  else if c = '\t' then ['\\', 't']
  else if n < 0x20 then
    let digits := Text.hexDigits n
    ['\\', 'u'] ++ List.replicate (4 - digits.length) '0' ++ digits
  else [c]

/-- A text between quotes. -/
def quoted (s : String) : String := String.ofList ('"' :: s.toList.flatMap quoteChar ++ ['"'])

/-- A number as it is written. -/
def numberText : Number → String
  | .int n _ => toString n
  | .float x => if x.isFinite then floatStyle.render x else "null"

/-- The text of a key. -/
def keyText : Value → Except Unwritable String
  | .text s => .ok s
  | .bool b => .ok (toString b)
  | .number (.float x) => if x.isFinite then .ok (floatStyle.render x) else .error .infiniteKey
  | .number n => .ok (numberText n)
  | _ => .error .keyKind

/-- A new line with the given depth of indentation. -/
def newLine (depth : Nat) : String := "\n" ++ String.ofList (List.replicate (2 * depth) ' ')

/-- Parts between brackets, each on a line of its own. -/
def block (depth : Nat) (opening closing : String) (parts : List String) : String :=
  if parts.isEmpty then opening ++ closing
  else opening ++ newLine (depth + 1) ++ String.intercalate ("," ++ newLine (depth + 1)) parts ++
    newLine depth ++ closing

/-- An entry of an object. -/
def entryText (key value : String) : String := quoted key ++ ": " ++ value

mutual

/-- The text of a value at a depth of indentation. -/
def write (depth : Nat) : Value → Except Unwritable String
  | .null => .ok "null"
  | .bool b => .ok (toString b)
  | .number n => .ok (numberText n)
  | .text s => .ok (quoted s)
  | .sequence items => (writeItems (depth + 1) items).map (block depth "[" "]")
  | .mapping entries => (writeEntries (depth + 1) entries).map (block depth "\x7b" "\x7d")
  | .tagged tag v => (write (depth + 1) v).map fun text =>
      block depth "\x7b" "\x7d" [entryText ("!" ++ tag) text]

/-- The texts of the items of an array. -/
def writeItems (depth : Nat) : List Value → Except Unwritable (List String)
  | [] => .ok []
  | v :: vs =>
    match write depth v with
    | .error e => .error e
    | .ok text => (writeItems depth vs).map (text :: ·)

/-- The texts of the entries of an object. -/
def writeEntries (depth : Nat) : List (Value × Value) → Except Unwritable (List String)
  | [] => .ok []
  | (k, v) :: es =>
    match keyText k, write depth v with
    | .error e, _ => .error e
    | _, .error e => .error e
    | .ok key, .ok text => (writeEntries depth es).map (entryText key text :: ·)

end

end RecordQuery.Json

/-- The JSON text of a value, or the reason why it cannot be written. -/
def RecordQuery.Value.toJson (v : RecordQuery.Value) :
    Except RecordQuery.Json.Unwritable String := RecordQuery.Json.write 0 v
