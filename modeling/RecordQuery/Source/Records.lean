import RecordQuery.Filter.Record
import RecordQuery.Source.FileTree
import RecordQuery.Source.FrontMatter
import RecordQuery.Yaml.Loading

/-!
# Records in files

Records come from one file, from the files below a directory, or from a list of files. A file holds
a YAML or JSON document, or a note whose front matter is one. A mapping is one record, a sequence
holds one for each of its mappings, and any other document holds none. Files that cannot be read
are passed over.

* `recordsOfDocument`: `records_from_document`, the records of a document.
* `RecordSource.recordsAt`: `read_records`, the records of the file at a place.
* `RecordSource.load`: all records of a source, file by file; `files` gives these in order.
-/

namespace RecordQuery.Source

/-- What a record file holds. -/
inductive RecordFormat where
  | document
  | frontMatter
  deriving DecidableEq

namespace RecordFormat

/-- What follows the last point of a file name; a name that only starts with a point has no
extension. -/
def extension? (name : String) : Option String :=
  let (ending, start) := name.toList.reverse.span (· ≠ '.')
  match start with
  | _ :: _ :: _ => some (String.ofList ending.reverse)
  | _ => none

/-- The format of the record files with a name; none for other files. -/
def ofName? (name : String) : Option RecordFormat :=
  match extension? name with
  | some "yaml" | some "yml" | some "json" => some .document
  | some "md" => some .frontMatter
  | _ => none

end RecordFormat

/-- The records of a document. -/
def recordsOfDocument : Value → List Record
  | .sequence items => items.filterMap Record.ofValue?
  | v => (Record.ofValue? v).toList

/-- The YAML text in the text of a record file. -/
def yamlPart? (format : RecordFormat) (text : String) : Option String :=
  match format with
  | .document => some text
  | .frontMatter => frontMatter? text

/-- The records in the text of a file with a name. A file whose name asks for no format holds a
document. -/
def recordsOfText (name text : String) : List Record :=
  match (yamlPart? ((RecordFormat.ofName? name).getD .document) text).bind Value.ofYaml? with
  | some v => recordsOfDocument v
  | none => []

/-- Where records are read from. -/
inductive RecordSource where
  /-- A file, or a directory with all that is below it. -/
  | path (path : String)
  /-- A list of files. -/
  | files (paths : List String)
  deriving DecidableEq

namespace RecordSource

/-- The source that a text lists: a path on every line that is not blank. -/
def ofListing (text : String) : RecordSource :=
  .files ((((Text.splitWhere (· = '\n') text.toList).map Text.trim).filter fun line =>
    !line.isEmpty).map String.ofList)

/-- The name of the file at the end of a path. -/
def fileName (path : String) : String := (FileTree.pathParts path).getLast?.getD ""

/-- The records of the file at a path; none if it cannot be read. -/
def loadFile (files : FileTree) (directory : List String) (path : String) : List Record :=
  match files.readText directory path with
  | .ok text => recordsOfText (fileName path) text
  | .error _ => []

/-- A record file stands at a place: a file whose name has a format. -/
def isRecordFile (files : FileTree) (place : List String) : Bool :=
  match files.find? place with
  | some (.file _) => (RecordFormat.ofName? (lastName place)).isSome
  | _ => false

/-- The records of the file at a place; none if it cannot be read. -/
def recordsAt (files : FileTree) (place : List String) : List Record :=
  match files.find? place with
  | some (.file (.text text)) => recordsOfText (lastName place) text
  | _ => []

/-- The records of the record files that a walk finds, in the order of their places. -/
def loadWalked (w : Walker) (files : FileTree) (directory : List String) (path : String) :
    List Record :=
  let places := (w.entries ownIgnoreName files directory path).filter (isRecordFile files)
  (places.mergeSort fun a b => comparePlaces a b != .gt).flatMap (recordsAt files)

/-- All records of a source. -/
def load (w : Walker) (files : FileTree) (directory : List String) : RecordSource → List Record
  | .files paths => paths.flatMap (loadFile files directory)
  | .path p =>
    if files.isFile directory p then loadFile files directory p
    else loadWalked w files directory p

end RecordSource

end RecordQuery.Source
