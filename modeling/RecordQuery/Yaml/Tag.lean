import RecordQuery.Yaml.Scalar

/-!
# Names, tags and directives

An anchor has a name. A tag is a handle and a rest; a directive can give a handle a meaning. In the
rest of a tag, percent signs stand before the bytes of characters that are not written as
themselves.

* `anchorName`, `tagToken`, `directive`: the texts of these tokens.
-/

namespace RecordQuery.Yaml

/-! ## Names -/

/-- What may follow the name of an anchor beside a blank. -/
def afterNameMarks : List Char := ['?', ':', ',', ']', '}', '%', '@', '\x60']

/-- The name of an anchor or an alias, from its mark on. -/
def anchorName : Scan String := fun c =>
  let c := c.next
  let name := c.span isNameChar
  let c := c.skip name.length
  let ends := c.rest.head?.all fun a => isGap a || isBreak a || afterNameMarks.contains a
  if !name.isEmpty && ends then some (String.ofList name, c) else none

/-! ## Tags -/

/-- The characters of the rest of a tag. The three marks of brackets and commas are among them only
between angle brackets. -/
def isTagChar (enclosed : Bool) (c : Char) : Bool :=
  isNameChar c ||
    [';', '/', '?', ':', '@', '&', '=', '+', '$', '.', '%', '!', '~', '*', '\'', '(', ')'].contains
      c ||
    (enclosed && [',', '[', ']'].contains c)

/-- The number of bytes of the character that starts with a byte, if one does. -/
def byteWidth? (b : Nat) : Option Nat :=
  if b < 0x80 then some 1
  else if 0xC0 ≤ b ∧ b < 0xE0 then some 2
  else if 0xE0 ≤ b ∧ b < 0xF0 then some 3
  else if 0xF0 ≤ b ∧ b < 0xF8 then some 4
  else none

/-- The byte of a percent sign and two hexadecimal digits. -/
def escapedByte? : List Char → Option (Nat × List Char)
  | '%' :: a :: b :: cs => (Numeral.natInBase? 16 [a, b]).map fun n => (n, cs)
  | _ => none

/-- The escaped bytes that continue a character. -/
def continuationBytes : Nat → List Char → Option (List Nat × List Char)
  | 0, cs => some ([], cs)
  | n + 1, cs => do
    let (b, cs) ← escapedByte? cs
    guard (0x80 ≤ b ∧ b < 0xC0)
    let (bs, cs) ← continuationBytes n cs
    return (b :: bs, cs)

/-- The bytes that the characters of a tag stand for; fails if escapes are broken off. -/
def tagBytes : Nat → List Char → Option (List Nat)
  | 0, _ => some []
  | _, [] => some []
  | fuel + 1, '%' :: cs => do
    let (b, rest) ← escapedByte? ('%' :: cs)
    let width ← byteWidth? b
    let (bs, rest) ← continuationBytes (width - 1) rest
    return b :: bs ++ (← tagBytes fuel rest)
  | fuel + 1, c :: cs => (tagBytes fuel cs).map fun bs =>
      (String.ofList [c]).toUTF8.toList.map UInt8.toNat ++ bs

/-- The text of bytes up to the first zero, if they are one. -/
def textOfBytes? (bytes : List Nat) : Option String :=
  String.fromUTF8? (ByteArray.mk ((bytes.takeWhile (· ≠ 0)).map UInt8.ofNat).toArray)

/-- The rest of a tag at a position, after `lead`; absent if its bytes are no text. -/
def tagRest (enclosed : Bool) (lead : List Char) : Scan (Option String) := fun c =>
  let chars := c.span (isTagChar enclosed)
  (tagBytes chars.length chars).map fun bytes =>
    ((textOfBytes? bytes).map (String.ofList lead ++ ·), c.skip chars.length)

/-- The handle at a position: a mark, letters, and perhaps a second mark. -/
def tagHandle (cs : List Char) : List Char :=
  match cs with
  | '!' :: cs =>
    let name := cs.takeWhile isNameChar
    '!' :: name ++ (if (cs.drop name.length).head? = some '!' then ['!'] else [])
  | _ => []

/-- The handle is closed by a mark of its own. -/
def isClosedHandle (handle : List Char) : Bool :=
  1 < handle.length && handle.getLast? == some '!'

/-- A tag at a position: between angle brackets, after a handle, or after the mark alone. -/
def tagBody : Scan (String × Option String) := fun c =>
  match c.rest with
  | '!' :: '<' :: _ => do
    let c := c.skip 2
    guard (c.rest.head?.any (isTagChar true))
    let (rest, c) ← tagRest true [] c
    guard (c.rest.head? = some '>')
    return (("", rest), c.next)
  | _ =>
    let handle := tagHandle c.rest
    let after := c.skip handle.length
    if isClosedHandle handle then do
      guard (after.rest.head?.any (isTagChar false))
      let (rest, c) ← tagRest false [] after
      return ((String.ofList handle, rest), c)
    else do
      let (rest, c) ← tagRest false handle.tail after
      return (if rest = some "" then ("", some "!") else ("!", rest), c)

/-- A tag with the blank that has to follow, or the comma between brackets. -/
def tagToken (flow : Bool) : Scan Token := fun c => do
  let ((handle, rest), c) ← tagBody c
  guard (atBlank c.rest || (flow && c.rest.head? == some ','))
  return (.tag handle rest, c)

/-! ## Directives -/

/-- A number of at most nine digits. -/
def versionNumber : Scan Nat := fun c =>
  let digits := c.span Char.isDigit
  if digits.isEmpty || 9 < digits.length then none
  else some (Numeral.decimalValue digits, c.skip digits.length)

/-- The version that a directive states. -/
def versionDirective : Scan Token := fun c => do
  let (major, c) ← versionNumber c
  guard (c.rest.head? = some '.')
  let (minor, c) ← versionNumber c.next
  return (.versionDirective major minor, c)

/-- The handle that a directive gives a meaning, and what it stands for. -/
def tagDirective : Scan Token := fun c => do
  let handle := tagHandle c.rest
  guard (handle = ['!'] || isClosedHandle handle)
  let c := c.skip handle.length
  guard (c.rest.head?.any isGap)
  let c := c.skipWhile isGap
  guard (c.rest.head?.any (isTagChar true))
  let (lead, c) ← tagRest true [] c
  guard (atBlank c.rest)
  return (.tagDirective (String.ofList handle) lead, c)

/-- A directive, from its mark to the end of its line. -/
def directive : Scan Token := fun c => do
  let c := c.next
  let name := c.span isNameChar
  let c := c.skip name.length
  guard (atBlank c.rest)
  let c := c.skipWhile isGap
  let (token, c) ←
    match String.ofList name with
    | "YAML" => versionDirective c
    | "TAG" => tagDirective c
    | _ => none
  let c := c.skipComment
  guard c.atLineEnd
  return (token, c.next)

end RecordQuery.Yaml
