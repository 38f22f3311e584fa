import RecordQuery.Yaml.Form

/-!
# Writing a document

A value is written in block style. Collections are indented by two spaces, a sequence under a key
is not; an empty collection is written with brackets; a key that is long, has several lines or is a
collection is written after a question mark. A tag stands before its value, and a collection under
a tag starts on a new line.

* `unwritable?`: two tags on one value cannot be written, nor a lone key that is tagged or that is
  itself a mapping with a lone key, unless the outer mapping has a tag.
* `Value.toYaml`: the document of a value.
-/

namespace RecordQuery.Yaml

/-! ## What can be written -/

/-- Why a value cannot be written. -/
inductive Unwritable where
  /-- A value has two tags. -/
  | nestedTags
  /-- The lone key of a mapping is written like a tag itself. -/
  | tagLikeKey
  deriving DecidableEq

/-- The wording of the reason. -/
def Unwritable.message : Unwritable → String
  | .nestedTags => "serializing nested enums in YAML is not supported yet"
  | .tagLikeKey => "expected SCALAR, SEQUENCE-START, MAPPING-START, or ALIAS"

/-- The value is written like a tag: it has one, or it is a mapping with a lone key. -/
def isTagLike : Value → Bool
  | .tagged .. => true
  | .mapping [_] => true
  | _ => false

mutual

/-- The reason why a value cannot be written; none if it can. -/
def unwritable? : Value → Option Unwritable
  | .sequence items => itemsUnwritable? items
  | .mapping [(k, v)] =>
    (unwritable? k).or <| (unwritable? v).or <| if isTagLike k then some .tagLikeKey else none
  | .mapping entries => entriesUnwritable? entries
  | .tagged _ v => unwritableUnderTag? v
  | _ => none

/-- The reason why a value cannot be written under a tag; none if it can. -/
def unwritableUnderTag? : Value → Option Unwritable
  | .sequence items => itemsUnwritable? items
  | .mapping entries => entriesUnwritable? entries
  | .tagged .. => some .nestedTags
  | _ => none

/-- The first reason why one of the values cannot be written. -/
def itemsUnwritable? : List Value → Option Unwritable
  | [] => none
  | v :: vs => (unwritable? v).or (itemsUnwritable? vs)

/-- The first reason why one of the keys and values of the entries cannot be written. -/
def entriesUnwritable? : List (Value × Value) → Option Unwritable
  | [] => none
  | (k, v) :: es => (unwritable? k).or <| (unwritable? v).or (entriesUnwritable? es)

end

/-! ## Tags -/

/-- The marks that a tag may hold beside letters and digits. -/
def tagMarks : List Char :=
  ['-', ';', '/', '?', ':', '@', '&', '=', '+', '$', ',', '_', '.', '~', '*', '\'', '(', ')', '[',
   ']']

/-- The characters of a tag; others are written as percent signs with the bytes. -/
def tagChar (c : Char) : List Char :=
  if c.isAlphanum || tagMarks.contains c then [c]
  else (String.ofList [c]).toUTF8.toList.flatMap fun b => '%' :: hexUpper 2 b.toNat

/-- The full name of a tag, with its exclamation mark. -/
def fullTag (name : String) : List Char :=
  match name.toList with
  | '!' :: cs => '!' :: cs
  | cs => '!' :: cs

/-- A tag as it is written. -/
def tagText (name : String) : List Char :=
  match fullTag name with
  | '!' :: c :: cs => '!' :: (c :: cs).flatMap tagChar
  | cs => '!' :: '<' :: cs.flatMap tagChar ++ ['>']

/-! ## Nodes -/

/-- Where a node is written. -/
structure Place where
  /-- The indentation of the collection around it; none at the root. -/
  indent : Option Nat
  /-- The node follows something on its line that a space has to part from it. -/
  follows : Bool
  /-- A block collection can start on the same line. -/
  fresh : Bool
  /-- The node is the key or the value of a mapping. -/
  inMapping : Bool

namespace Place

/-- The place of the document's value. -/
def root : Place := ⟨none, false, true, false⟩

/-- After the mark of an item. -/
def item (indent : Nat) : Place := ⟨some indent, true, true, false⟩

/-- After a question mark, or after the colon that answers it. -/
def longEntry (indent : Nat) : Place := ⟨some indent, true, true, true⟩

/-- After a key and its colon. -/
def value (indent : Nat) : Place := ⟨some indent, true, false, true⟩

/-- After a tag. -/
def afterTag (p : Place) : Place := { p with follows := true, fresh := false }

/-- The indentation of the lines of a scalar. -/
def scalarIndent (p : Place) : Nat :=
  match p.indent with
  | some n => n + 2
  | none => 2

/-- The indentation of the entries of a mapping. -/
def mappingIndent (p : Place) : Nat :=
  match p.indent with
  | some n => n + 2
  | none => 0

/-- The indentation of the items of a sequence. -/
def sequenceIndent (p : Place) : Nat :=
  match p.indent with
  | some n => if p.inMapping && !p.fresh then n else n + 2
  | none => 0

/-- The space before a node that stays on the line. -/
def gap (p : Place) : List Char := if p.follows then [' '] else []

/-- What stands before the first entry of a block collection with the given indentation: nothing
is parted from it, one space per column after a mark on the same line, or a new line. -/
def opening (p : Place) (indent : Nat) : List Char :=
  if !p.fresh then '\n' :: List.replicate indent ' '
  else if p.follows then [' ']
  else []

end Place

/-- A line end after a text, unless the text brings its own. -/
def endLine (cs : List Char) : List Char :=
  if cs.getLast?.any isBreak then cs else cs ++ ['\n']

/-- The text of a scalar that is not a text, or of an empty collection. -/
def wordOf : Value → List Char
  | .null => "null".toList
  | .bool b => (toString b).toList
  | .number n => n.toText.toList
  | .sequence _ => ['[', ']']
  | .mapping _ => ['{', '}']
  | _ => []

/-- A value that stays on one line, indented by `indent` if it does not. -/
def inlineText (indent : Nat) : Value → List Char
  | .text s => (Form.ofText s).write indent s.toList
  | v => wordOf v

/-- The value is a scalar or an empty collection, and the number of bytes that count for it. -/
def inlineSize? : Value → Option Nat
  | .text s => if s.toList.any isBreak then none else some s.utf8ByteSize
  | .sequence [] | .mapping [] => some 0
  | .sequence _ | .mapping _ => none
  | .tagged t v =>
    match v with
    | .tagged .. => none
    | v => (inlineSize? v).map (byteCount (fullTag t) + ·)
  | v => some (byteCount (wordOf v))

/-- A key that stands on one line before its colon. -/
def isShortKey (k : Value) : Bool := (inlineSize? k).any (· ≤ 128)

/-- A short key as it is written. -/
def shortKeyText : Value → List Char
  | .tagged t v => tagText t ++ ' ' :: inlineText 0 v
  | v => inlineText 0 v

/-- The entries of a block with the indentation between them. -/
def joinEntries (indent : Nat) (entries : List (List Char)) : List Char :=
  List.intercalate (List.replicate indent ' ') entries

mutual

/-- The text of a value from its place to the end of its last line. -/
def writeNode (p : Place) : Value → List Char
  | .sequence (item :: items) =>
    let indent := p.sequenceIndent
    p.opening indent ++ joinEntries indent (writeItems indent (item :: items))
  | .mapping (entry :: entries) =>
    let indent := p.mappingIndent
    p.opening indent ++ joinEntries indent (writeEntries indent (entry :: entries))
  | .tagged t v => p.gap ++ tagText t ++ writeNode p.afterTag v
  | v => p.gap ++ endLine (inlineText p.scalarIndent v)

/-- The texts of the items of a sequence. -/
def writeItems (indent : Nat) : List Value → List (List Char)
  | [] => []
  | v :: vs => ('-' :: writeNode (.item indent) v) :: writeItems indent vs

/-- The texts of the entries of a mapping. -/
def writeEntries (indent : Nat) : List (Value × Value) → List (List Char)
  | [] => []
  | (k, v) :: es =>
    (if isShortKey k then shortKeyText k ++ ':' :: writeNode (.value indent) v
     else '?' :: writeNode (.longEntry indent) k ++ List.replicate indent ' ' ++
       ':' :: writeNode (.longEntry indent) v) :: writeEntries indent es

end

end RecordQuery.Yaml

namespace RecordQuery

/-- The document of a value, or the reason why it cannot be written. -/
def Value.toYaml (v : Value) : Except Yaml.Unwritable String :=
  match Yaml.unwritable? v with
  | some reason => .error reason
  | none => .ok (String.ofList (Yaml.writeNode .root v))

/-- The document of a value, the empty text if it cannot be written. -/
def Value.written (v : Value) : String := v.toYaml.toOption.getD ""

end RecordQuery
