import RecordQuery.Filter.Prefixes
import RecordQuery.Yaml.Anchor
import RecordQuery.Yaml.Lexer
import RecordQuery.Yaml.Plain

/-!
# Reading values from documents

The value of a document: plain scalars get their types from their texts, tags of the document's
own stay on the values, and the tags for the basic types force a type. Aliases are replaced by what
they refer to. A document is refused if a mapping holds a key twice, if it is nested too deeply, or
if replacing the aliases takes too many steps.

* `Value.ofYaml?`: the value of a text.
* `FilterConfig.ofYaml?`: the prefix options of a text, whose values are taken as they are written.
-/

namespace RecordQuery.Yaml

/-- Collections may be nested so deeply. -/
def depthLimit : Nat := 128

/-- Aliases may be replaced so often for each mark of a document. -/
def aliasesPerMark : Nat := 100

/-- A document with the nodes that its aliases refer to. -/
structure Document where
  root : Node Nat
  anchors : List (Nat × Node Nat)

namespace Document

/-- The document of a tree; a number refers to the last node that bears it. -/
def ofRoot (root : Node Nat) : Document := ⟨root, root.anchored.reverse⟩

/-- The document of a text, or nothing if the text is empty; fails if it is no document. -/
def ofText? (text : String) : Option (Option Document) := do
  let tokens ← Token.ofText? text.toList
  match ← Node.ofTokens? tokens with
  | none => some none
  | some root => (root.numbered?).map fun root => some (ofRoot root)

/-- The aliases that may still be replaced. -/
abbrev Budget := StateT Nat Option

/-- The node that an alias refers to, or the node itself. -/
def follow (d : Document) : Node Nat → Budget (Node Nat)
  | .alias id => fun budget =>
    if budget = 0 then none else (d.anchors.lookup id).map (·, budget - 1)
  | n => pure n

end Document

/-! ## Scalars -/

/-- A tag that is the document's own, by its name without the mark; the lone mark is its name. -/
def Tag.own? : Option Tag → Option String
  | some (.named name) =>
    match name.toList with
    | ['!'] => some name
    | '!' :: cs => some (String.ofList cs)
    | _ => none
  | _ => none

/-- The start of the tags for the basic types. -/
def basicTag (type : String) : Tag := .named ("tag:yaml.org,2002:" ++ type)

/-- The value of a scalar without a tag. -/
def untaggedScalar? (text : String) (plain : Bool) : Option Value :=
  if plain then Plain.value? text else some (.text text)

/-- The value of a scalar with a tag that is not the document's own. -/
def basicScalar? (tag : Tag) (text : String) : Option Value :=
  if tag = basicTag "bool" then (Plain.bool? text).map .bool
  else if tag = basicTag "int" then (Plain.number? text.toList).map .number
  else if tag = basicTag "float" then (Plain.float? text.toList).map fun x => .number (.float x)
  else if tag = basicTag "null" then if Plain.nullWords.contains text then some .null else none
  else some (.text text)

/-- The value of a scalar, where a tag of the document's own is left aside. -/
def scalarValue? (tag : Option Tag) (text : String) (plain : Bool) : Option Value :=
  match Tag.own? tag, tag with
  | none, some tag => basicScalar? tag text
  | _, _ => untaggedScalar? text plain

/-- The value under a tag of the document's own, or the value itself. -/
def underTag (tag : Option Tag) (v : Value) : Value :=
  match Tag.own? tag with
  | some name => .tagged name v
  | none => v

/-! ## Values -/

/-- The mapping of the entries; none if a key occurs twice. -/
def uniqueEntries? : Mapping → List (Value × Value) → Option Mapping
  | m, [] => some m
  | m, (k, v) :: es => if m.holds k then none else uniqueEntries? (m ++ [(k, v)]) es

/-- The value of a node with at most so many levels of collections. -/
def Document.load (d : Document) : Nat → Node Nat → Budget Value
  | depth, n => do
    match ← d.follow n, depth with
    | .scalar _ tag text plain, _ =>
      let v ← StateT.lift (scalarValue? tag text plain)
      return underTag tag v
    | .sequence _ tag items, depth + 1 =>
      let vs ← items.mapM (d.load depth)
      return underTag tag (.sequence vs)
    | .mapping _ tag entries, depth + 1 =>
      let es ← entries.mapM fun e => do
        let k ← d.load depth e.1
        let v ← d.load depth e.2
        return (k, v)
      let m ← StateT.lift (uniqueEntries? [] es)
      return underTag tag (.mapping m)
    | _, _ => failure

/-- The value of a document. -/
def Document.value? (d : Document) : Option Value :=
  (d.load depthLimit d.root (aliasesPerMark * d.root.size)).map Prod.fst

/-! ## Prefix options -/

/-- The text of a scalar as it is written. -/
def Document.rawText? (d : Document) (n : Node Nat) : Option String :=
  match n with
  | .alias id =>
    match d.anchors.lookup id with
    | some (.scalar _ _ text _) => some text
    | _ => none
  | .scalar _ _ text _ => some text
  | _ => none

/-- A scalar as an optional text: null leaves it unset, anything else is taken as it is written. -/
def optionalScalar? (tag : Option Tag) (text : String) (plain : Bool) : Option (Option String) :=
  if !plain then some (some text)
  else match tag with
    | none => some (if text = "" ∨ Plain.nullWords.contains text then none else some text)
    | some tag =>
      if tag = basicTag "null" then if Plain.nullWords.contains text then some none else none
      else some (some text)

/-- A node as an optional text. -/
def Document.optionalText? (d : Document) (n : Node Nat) : Option (Option String) :=
  let target := match n with
    | .alias id => d.anchors.lookup id
    | n => some n
  match target with
  | some (.scalar _ tag text plain) => optionalScalar? tag text plain
  | _ => none

/-- The entry of a key among the entries of a mapping, unset if it is absent; fails if it occurs
twice or its value is a collection. -/
def Document.option? (d : Document) (entries : List (String × Node Nat)) (key : String) :
    Option (Option String) :=
  match entries.filter fun e => e.1 = key with
  | [] => some none
  | [e] => d.optionalText? e.2
  | _ => none

/-- The key of the namespace in a configuration. -/
def namespaceKey : String := "modelNamespace"

/-- The prefix options of a mapping. -/
def Document.config? (d : Document) (entries : List (Node Nat × Node Nat)) :
    Option FilterConfig := do
  let entries ← entries.mapM fun e => (d.rawText? e.1).map (·, e.2)
  let modelNamespace ← d.option? entries namespaceKey
  let spellings ← Prefix.priority.mapM fun p => (d.option? entries p.configKey).map (p, ·)
  return ⟨modelNamespace, fun p => (spellings.lookup p).join⟩

end RecordQuery.Yaml

namespace RecordQuery

/-- The value of a YAML text, null if the text is empty. -/
def Value.ofYaml? (text : String) : Option Value :=
  match Yaml.Document.ofText? text with
  | none => none
  | some none => some .null
  | some (some d) => d.value?

/-- The prefix options that a YAML text states; those it leaves out are unset. -/
def FilterConfig.ofYaml? (text : String) : Option FilterConfig :=
  match Yaml.Document.ofText? text with
  | none => none
  | some none => some ⟨none, fun _ => none⟩
  | some (some d) =>
    match d.root with
    | .mapping _ _ entries => d.config? entries
    | _ => none

end RecordQuery
