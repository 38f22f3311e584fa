import RecordQuery.Yaml.Token

/-!
# The tree of a document

A document is a tree of scalars, sequences and mappings, each of which may have an anchor and a
tag, and of aliases, which refer to an anchored node. What a token cannot start is left empty: an
item, a key or a value without a node is the empty plain scalar.

* `Node`: the tree.
* `Node.ofTokens?`: the tree of a list of tokens. There is at most one document, and nothing
  may follow it.
-/

namespace RecordQuery.Yaml

/-- What a tag says about a node. -/
inductive Tag where
  /-- The full name of a tag. -/
  | named (name : String)
  /-- A tag whose bytes are no text. -/
  | unreadable
  deriving DecidableEq

/-- A node of a document whose anchors are known by names of type `ν`. -/
inductive Node (ν : Type) where
  | scalar (anchor : Option ν) (tag : Option Tag) (text : String) (plain : Bool)
  | sequence (anchor : Option ν) (tag : Option Tag) (items : List (Node ν))
  | mapping (anchor : Option ν) (tag : Option Tag) (entries : List (Node ν × Node ν))
  | alias (name : ν)

/-- A node as it is written, where anchors have texts as names. -/
abbrev Written := Node String

/-- The node that stands where none is written. -/
def Node.empty {ν : Type} : Node ν := .scalar none none "" true

/-- The handles of a document and what they stand for. -/
abbrev Handles := List (String × Option String)

/-- The handles that have a meaning without a directive. -/
def standardHandles : Handles := [("!", some "!"), ("!!", some "tag:yaml.org,2002:")]

/-- The tag of a handle and a rest, if the handle has a meaning. -/
def Tag.resolve? (handles : Handles) (handle : String) (rest : Option String) : Option Tag :=
  let full (lead rest : Option String) : Tag :=
    match lead, rest with
    | some l, some r => .named (l ++ r)
    | _, _ => .unreadable
  if handle = "" then some (full (some "") rest)
  else (handles.lookup handle).map fun lead => full lead rest

/-- A step that reads tokens and leaves the rest, or fails. -/
abbrev Parse (α : Type) := List Token → Option (α × List Token)

/-! ## Nodes -/

/-- The anchor and the tag before a node, in either order. -/
def properties (handles : Handles) : Parse (Option String × Option Tag) := fun ts =>
  match ts with
  | .anchor a :: .tag h r :: ts => (Tag.resolve? handles h r).map fun t => ((some a, some t), ts)
  | .tag h r :: .anchor a :: ts => (Tag.resolve? handles h r).map fun t => ((some a, some t), ts)
  | .anchor a :: ts => some ((some a, none), ts)
  | .tag h r :: ts => (Tag.resolve? handles h r).map fun t => ((none, some t), ts)
  | ts => some ((none, none), ts)

/-- A scalar with its properties. The lone mark is no tag of a scalar: it asks that a plain one be
read as if it had none. -/
def Node.ofScalar (anchor : Option String) (tag : Option Tag) (text : String) (plain : Bool) :
    Written :=
  .scalar anchor (if tag = some (.named "!") then none else tag) text plain

/-- A node with properties alone, which is empty. -/
def Node.bare (anchor : Option String) (tag : Option Tag) : Parse Written := fun ts =>
  if anchor.isSome || tag.isSome then some (.scalar anchor tag "" true, ts) else none

/-- The tokens after the comma that parts an item between brackets from the one before. -/
def afterComma (first : Bool) (ts : List Token) : Option (List Token) :=
  if first then some ts
  else match ts with
    | .flowEntry :: ts => some ts
    | _ => none

/-- The item of a block sequence ends before this token without having started. -/
def endsItem : Token → Bool
  | .blockEntry | .blockEnd => true
  | _ => false

/-- The node of a block mapping ends before this token without having started. -/
def endsEntry : Token → Bool
  | .key | .value | .blockEnd => true
  | _ => false

/-- The item of a sequence without an indentation of its own ends before this token without having
started. -/
def endsLooseItem (t : Token) : Bool := t = .blockEntry || endsEntry t

/-- The node of a flow mapping ends before this token without having started. -/
def endsFlowEntry : Token → Bool
  | .flowEntry | .flowMappingEnd => true
  | _ => false

/-- The node of a pair in a flow sequence ends before this token without having started. -/
def endsFlowPair : Token → Bool
  | .flowEntry | .flowSequenceEnd => true
  | _ => false

mutual

/-- A node. `block` allows block collections, and `loose` a sequence without an indentation of its
own. -/
def node (handles : Handles) : Nat → Bool → Bool → Parse Written
  | 0, _, _, _ => none
  | fuel + 1, block, loose, ts =>
    match ts with
    | .alias name :: ts => some (.alias name, ts)
    | ts => do
      let ((anchor, tag), ts) ← properties handles ts
      match ts with
      | .blockEntry :: _ =>
        if loose then
          let (items, ts) ← looseItems handles fuel ts
          return (.sequence anchor tag items, ts)
        else Node.bare anchor tag ts
      | .scalar text plain :: ts => return (.ofScalar anchor tag text plain, ts)
      | .flowSequenceStart :: ts =>
        let (items, ts) ← flowItems handles fuel true ts
        return (.sequence anchor tag items, ts)
      | .flowMappingStart :: ts =>
        let (entries, ts) ← flowEntries handles fuel true ts
        return (.mapping anchor tag entries, ts)
      | .blockSequenceStart :: rest =>
        if block then
          let (items, ts) ← blockItems handles fuel rest
          return (.sequence anchor tag items, ts)
        else Node.bare anchor tag ts
      | .blockMappingStart :: rest =>
        if block then
          let (entries, ts) ← blockEntries handles fuel rest
          return (.mapping anchor tag entries, ts)
        else Node.bare anchor tag ts
      | ts => Node.bare anchor tag ts

/-- A node, or the empty one before a token that ends it. -/
def nodeUnless (handles : Handles) (ends : Token → Bool) : Nat → Bool → Bool → Parse Written
  | 0, _, _, _ => none
  | fuel + 1, block, loose, ts =>
    if ts.head?.any ends then some (.empty, ts) else node handles fuel block loose ts

/-- The items of a block sequence up to its end. -/
def blockItems (handles : Handles) : Nat → Parse (List Written)
  | 0, _ => none
  | fuel + 1, ts =>
    match ts with
    | .blockEntry :: ts => do
      let (item, ts) ← nodeUnless handles endsItem fuel true false ts
      let (items, ts) ← blockItems handles fuel ts
      return (item :: items, ts)
    | .blockEnd :: ts => some ([], ts)
    | _ => none

/-- The items of a sequence without an indentation of its own. -/
def looseItems (handles : Handles) : Nat → Parse (List Written)
  | 0, _ => none
  | fuel + 1, ts =>
    match ts with
    | .blockEntry :: ts => do
      let (item, ts) ← nodeUnless handles endsLooseItem fuel true false ts
      let (items, ts) ← looseItems handles fuel ts
      return (item :: items, ts)
    | ts => some ([], ts)

/-- The value of an entry of a block mapping, which may be left out with its colon. -/
def blockValue (handles : Handles) : Nat → Parse Written
  | 0, _ => none
  | fuel + 1, ts =>
    match ts with
    | .value :: ts => nodeUnless handles endsEntry fuel true true ts
    | ts => some (.empty, ts)

/-- The entries of a block mapping up to its end. -/
def blockEntries (handles : Handles) : Nat → Parse (List (Written × Written))
  | 0, _ => none
  | fuel + 1, ts =>
    match ts with
    | .key :: ts => do
      let (k, ts) ← nodeUnless handles endsEntry fuel true true ts
      let (v, ts) ← blockValue handles fuel ts
      let (entries, ts) ← blockEntries handles fuel ts
      return ((k, v) :: entries, ts)
    | .blockEnd :: ts => some ([], ts)
    | _ => none

/-- The value of an entry between brackets, which may be left out with its colon. -/
def flowValue (handles : Handles) (ends : Token → Bool) : Nat → Parse Written
  | 0, _ => none
  | fuel + 1, ts =>
    match ts with
    | .value :: ts => nodeUnless handles ends fuel false false ts
    | ts => some (.empty, ts)

/-- The key of a pair in a flow sequence. The token before which an empty key ends is passed. -/
def flowPairKey (handles : Handles) : Nat → Parse Written
  | 0, _ => none
  | fuel + 1, ts =>
    match ts with
    | .value :: ts | .flowEntry :: ts | .flowSequenceEnd :: ts => some (.empty, ts)
    | ts => node handles fuel false false ts

/-- The items of a flow sequence up to its end. -/
def flowItems (handles : Handles) : Nat → Bool → Parse (List Written)
  | 0, _, _ => none
  | fuel + 1, first, ts =>
    match ts with
    | .flowSequenceEnd :: ts => some ([], ts)
    | ts => do
      let ts ← afterComma first ts
      match ts with
      | .key :: ts =>
        let (k, ts) ← flowPairKey handles fuel ts
        let (v, ts) ← flowValue handles endsFlowPair fuel ts
        let (items, ts) ← flowItems handles fuel false ts
        return (.mapping none none [(k, v)] :: items, ts)
      | .flowSequenceEnd :: ts => return ([], ts)
      | ts =>
        let (item, ts) ← node handles fuel false false ts
        let (items, ts) ← flowItems handles fuel false ts
        return (item :: items, ts)

/-- The entries of a flow mapping up to its end. A node without a question mark or a colon is a key
without a value. -/
def flowEntries (handles : Handles) : Nat → Bool → Parse (List (Written × Written))
  | 0, _, _ => none
  | fuel + 1, first, ts =>
    match ts with
    | .flowMappingEnd :: ts => some ([], ts)
    | ts => do
      let ts ← afterComma first ts
      match ts with
      | .key :: ts =>
        let (k, ts) ← flowKey handles fuel ts
        let (v, ts) ← flowValue handles endsFlowEntry fuel ts
        let (entries, ts) ← flowEntries handles fuel false ts
        return ((k, v) :: entries, ts)
      | .flowMappingEnd :: ts => return ([], ts)
      | ts =>
        let (k, ts) ← node handles fuel false false ts
        let (entries, ts) ← flowEntries handles fuel false ts
        return ((k, .empty) :: entries, ts)

/-- The key of an entry of a flow mapping. -/
def flowKey (handles : Handles) : Nat → Parse Written
  | 0, _ => none
  | fuel + 1, ts =>
    if ts.head?.any (fun t => t = .value || endsFlowEntry t) then some (.empty, ts)
    else node handles fuel false false ts

end

/-! ## Documents -/

/-- The directives at the start of a document, with the handles that they give a meaning. -/
structure Directives where
  hasVersion : Bool
  handles : Handles
  any : Bool

namespace Directives

/-- No directive. -/
def none : Directives := ⟨false, [], false⟩

/-- Takes in one more directive. A second version, another version than 1.1 and 1.2, and a handle
given twice are refused. -/
def add? (d : Directives) : Token → Option Directives
  | .versionDirective major minor =>
    if !d.hasVersion && major == 1 && (minor == 1 || minor == 2) then
      some { d with hasVersion := true, any := true }
    else Option.none
  | .tagDirective handle lead =>
    if (d.handles.lookup handle).isSome then Option.none
    else some { d with handles := d.handles ++ [(handle, lead)], any := true }
  | _ => Option.none

/-- The directives at the front of a list of tokens. -/
def read (d : Directives) : Parse Directives
  | .versionDirective a b :: ts => (d.add? (.versionDirective a b)).bind fun d => d.read ts
  | .tagDirective h l :: ts => (d.add? (.tagDirective h l)).bind fun d => d.read ts
  | ts => some (d, ts)

end Directives

/-- The node of a document is left out before this token. -/
def endsDocument : Token → Bool
  | .documentStart | .documentEnd | .versionDirective .. | .tagDirective .. => true
  | _ => false

/-- Nothing follows a document but marks that close it. -/
def atEnd (ts : List Token) : Bool := ts.all (· = .documentEnd)

/-- The tree of a document, or nothing if there is no token; fails if the tokens are no document. -/
def Node.ofTokens? (ts : List Token) : Option (Option Written) :=
  if ts.isEmpty then some none
  else do
    let (directives, rest) ← Directives.none.read ts
    let handles := directives.handles ++ standardHandles
    let fuel := 4 * ts.length + 4
    match rest with
    | .documentStart :: rest =>
      let (root, rest) ←
        if rest.head?.all endsDocument then some (Node.empty, rest)
        else node handles fuel true false rest
      if atEnd rest then some (some root) else none
    | rest =>
      if directives.any then none
      else
        let (root, rest) ← node handles fuel true false rest
        if atEnd rest then some (some root) else none

end RecordQuery.Yaml
