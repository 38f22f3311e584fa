import RecordQuery.Text.Blank

/-!
# Files and directories

The files that a run can see are a tree. A path is looked up step by step, so that every directory
on the way must exist. Symbolic links and permissions are left out: a file is its bytes, as far as
they are a text.

What walks down a directory past the ignore files is not part of the program. It is given as a
`Walker`, from the tree to the places that it finds.

* `FileTree.locate`: the place and the node of a path.
* `FileTree.readText`: the text of a file, or why there is none.
* `comparePlaces`: the order in which the places of files are sorted.
-/

namespace RecordQuery.Source

/-- What a file holds. -/
inductive FileContent where
  | text (text : String)
  /-- Bytes that are no text; the lines before the first that is none are one. -/
  | bytes (before : String)
  deriving DecidableEq

namespace FileContent

/-- The lines of a file that can be read one by one from its start. -/
def readable : FileContent → String
  | .text all => all
  | .bytes before => before

/-- What a file with the given bytes holds. -/
def ofBytes (bytes : ByteArray) : FileContent :=
  match String.fromUTF8? bytes with
  | some all => .text all
  | none =>
    let lines := (bytes.toList.splitBy fun byte _ => byte != 10).map fun line =>
      String.fromUTF8? ⟨line.toArray⟩
    .bytes (String.join ((lines.takeWhile Option.isSome).filterMap id))

end FileContent

/-- A file or a directory. -/
inductive FileTree where
  | file (content : FileContent)
  | directory (entries : List (String × FileTree))

/-- Why a file cannot be read. -/
inductive ReadFailure where
  | missing
  | notDirectory
  | isDirectory
  | notText
  deriving DecidableEq

/-- The wording of a failure. -/
def ReadFailure.message : ReadFailure → String
  | .missing => "No such file or directory (os error 2)"
  | .notDirectory => "Not a directory (os error 20)"
  | .isDirectory => "Is a directory (os error 21)"
  | .notText => "stream did not contain valid UTF-8"

namespace FileTree

/-- The entry of a directory with a name. -/
def child? : FileTree → String → Option FileTree
  | .directory entries, name => entries.lookup name
  | .file _, _ => none

/-- The node with the given names on the way to it. -/
def find? (t : FileTree) : List String → Option FileTree
  | [] => some t
  | name :: names => (t.child? name).bind fun c => find? c names

/-- The directory with an entry set, in its place if the name is taken. -/
def setEntry (entries : List (String × FileTree)) (name : String) (t : FileTree) :
    List (String × FileTree) :=
  if (entries.lookup name).isSome then
    entries.map fun e => if e.1 = name then (name, t) else e
  else entries ++ [(name, t)]

/-- The entries of a directory, none for a file. -/
def entries : FileTree → List (String × FileTree)
  | .directory entries => entries
  | .file _ => []

/-- The tree with a node put at a place, and directories made on the way to it. -/
def insert : FileTree → List String → FileTree → FileTree
  | _, [], node => node
  | t, name :: names, node =>
    .directory (setEntry t.entries name
      (((t.child? name).getD (.directory [])).insert names node))

/-- A directory stands at the place. -/
def isDirectoryAt (t : FileTree) (place : List String) : Bool :=
  match t.find? place with
  | some (.directory _) => true
  | _ => false

/-! ## Paths -/

/-- The parts of a path between its slashes. -/
def pathParts (path : String) : List String :=
  (Text.splitWhere (· = '/') path.toList).map String.ofList

/-- One step on the way along a path, from a place to the next. -/
def stepTo (t : FileTree) (place : List String) (part : String) :
    Except ReadFailure (List String) :=
  match t.find? place with
  | none => .error .missing
  | some (.file _) => .error .notDirectory
  | some (.directory entries) =>
    if part = "" ∨ part = "." then .ok place
    else if part = ".." then .ok place.dropLast
    else if (entries.lookup part).isSome then .ok (place ++ [part])
    else .error .missing

/-- The place that a path leads to from a working directory, as the names on the way from the
root. -/
def locate (t : FileTree) (directory : List String) (path : String) :
    Except ReadFailure (List String) :=
  if path = "" then .error .missing
  else
    let start := if path.toList.head? = some '/' then [] else directory
    (pathParts path).foldlM (stepTo t) start

/-- The place that a path names, whether or not it exists. -/
def placeOf (directory : List String) (path : String) : List String :=
  let start := if path.toList.head? = some '/' then [] else directory
  (pathParts path).foldl (fun place part =>
    if part = "" ∨ part = "." then place
    else if part = ".." then place.dropLast
    else place ++ [part]) start

/-- The text of the file at a path. -/
def readText (t : FileTree) (directory : List String) (path : String) :
    Except ReadFailure String :=
  (t.locate directory path).bind fun place =>
    match t.find? place with
    | some (.file (.text text)) => .ok text
    | some (.file (.bytes _)) => .error .notText
    | some (.directory _) => .error .isDirectory
    | none => .error .missing

/-- A file stands at the path. -/
def isFile (t : FileTree) (directory : List String) (path : String) : Bool :=
  match t.locate directory path with
  | .error _ => false
  | .ok place =>
    match t.find? place with
    | some (.file _) => true
    | _ => false

end FileTree

/-! ## Places -/

/-- The last name on the way to a place. -/
def lastName (place : List String) : String := place.getLast?.getD ""

/-- The order of places: name by name, by code points. -/
def comparePlaces (a b : List String) : Ordering :=
  compare (a.map String.toList) (b.map String.toList)

/-! ## Walking -/

/-- The name of this program's own ignore file, whose rules come before the others. -/
def ownIgnoreName : String := ".dynqignore"

/-- The name of the ignore file that is shared with version control. -/
def gitIgnoreName : String := ".gitignore"

/-- What walks down directories, past what their ignore files leave out. -/
structure Walker where
  /-- The places of the entries that are found from the directory at a path on, in whatever order.
  Besides the ignore files of version control there are those with a name of their own. -/
  entries (ignoreName : String) (files : FileTree) (directory : List String) (path : String) :
    List (List String)

end RecordQuery.Source
