import RecordQuery.CommandLine.Options
import RecordQuery.Filter.Document
import RecordQuery.Json.Printer
import RecordQuery.Query.Service
import RecordQuery.Source.Records

/-!
# A run of the command line

A run reads its configuration, its records and its filter from files, queries the records, and
writes the answer as JSON or YAML. A query that fails still has an answer, which says so; a run that
cannot come to a query fails with a message. The program's functions for it are `run`,
`build_filter`, `read_filter_document`, `parse_field` and `print_response`.

* `parseField`: a filter field as an argument writes it.
* `buildFilter`: the filter of a document, the fields and the paging options on top of it.
* `run`: the outcome of a run.
-/

namespace RecordQuery.CommandLine

open Source

/-- What a run finds around it. -/
structure Surroundings where
  files : FileTree
  walker : Walker
  /-- The names on the way from the root to the working directory. -/
  directory : List String
  environment : List (String × String)
  /-- The standard input, absent if its bytes are no text. -/
  input : Option String

/-- Why a run cannot come to a query or to an answer. -/
inductive RunFailure where
  | configUnreadable (path : String) (cause : ReadFailure)
  | configInvalid (path : String)
  | noRecords
  | inputUnreadable
  | filterUnreadable (path : String) (cause : ReadFailure)
  | filterInvalid (path : String)
  | filterNotMapping (path : String)
  /-- A field lacks its equals sign. -/
  | fieldWithoutValue (argument : String)
  | fieldWithoutName (argument : String)
  | fieldInvalid (name : String)
  /-- The filter has the wrong shape, or its predicate, which was asked for, does not exist. -/
  | query (cause : FilterError)
  | unwritableJson (cause : Json.Unwritable)
  | unwritableYaml (cause : Yaml.Unwritable)
  deriving DecidableEq

/-- The wording of a failure. -/
def RunFailure.message : RunFailure → String
  | .configUnreadable path cause => "failed to read config " ++ path ++ ": " ++ cause.message
  | .configInvalid path => "failed to parse config " ++ path
  | .noRecords => "No records specified. Use --records, --stdin or set DYNQ_RECORDS"
  | .inputUnreadable => "Failed to read paths from stdin: " ++ ReadFailure.notText.message
  | .filterUnreadable path cause => "Failed to read filter " ++ path ++ ": " ++ cause.message
  | .filterInvalid path => "Failed to parse filter " ++ path
  | .filterNotMapping path => "Filter " ++ path ++ " must be a mapping"
  | .fieldWithoutValue argument => "Expected FIELD=VALUE, got '" ++ argument ++ "'"
  | .fieldWithoutName argument => "Missing field name in '" ++ argument ++ "'"
  | .fieldInvalid name => "Invalid value for " ++ name
  | .query cause => cause.message
  | .unwritableJson cause => cause.message
  | .unwritableYaml cause => cause.message

/-- How a run ends. -/
inductive Outcome where
  /-- The arguments are no request for a query. -/
  | stopped (stop : Stop)
  | answered (code : Nat) (output errors : String)
  /-- The run fails; `errors` is what it wrote before. -/
  | failed (failure : RunFailure) (errors : String)
  deriving DecidableEq

/-! ## The filter -/

/-- The name and the value of a field: the trimmed text before the first equals sign, and the YAML
value of what follows. -/
def parseField (argument : String) : Except RunFailure (String × Value) :=
  match Text.splitFirst '=' argument.toList with
  | none => .error (.fieldWithoutValue argument)
  | some (left, right) =>
    let name := String.ofList (Text.trim left)
    if name = "" then .error (.fieldWithoutName argument)
    else match Value.ofYaml? (String.ofList right) with
      | some v => .ok (name, v)
      | none => .error (.fieldInvalid name)

/-- The mapping in a filter document; an empty document is the empty one. -/
def filterMapping (path text : String) : Except RunFailure Mapping :=
  match Value.ofYaml? text with
  | none => .error (.filterInvalid path)
  | some (.mapping entries) => .ok entries
  | some .null => .ok []
  | some _ => .error (.filterNotMapping path)

/-- The mapping of the filter document that is asked for. -/
def readFilter (s : Surroundings) : Option String → Except RunFailure Mapping
  | none => .ok []
  | some path =>
    match s.files.readText s.directory path with
    | .error cause => .error (.filterUnreadable path cause)
    | .ok text => filterMapping path text

/-- The filter with a field as an argument writes it. -/
def addField (f : DocumentFilter) (argument : String) : Except RunFailure DocumentFilter :=
  (parseField argument).map fun (name, v) => f.setField name v

/-- The filter with the paging options that are given. -/
def withPaging (o : Options) (f : DocumentFilter) : DocumentFilter :=
  let f := if o.sort.isSome then f.withSorting o.sort else f
  let f := if o.page.isSome then f.withPage o.page else f
  if o.pageSize.isSome then f.withPageSize o.pageSize else f

/-- The filter that the options ask for. -/
def buildFilter (s : Surroundings) (o : Options) : Except RunFailure DocumentFilter := do
  let document ← readFilter s o.filter
  let base ← (DocumentFilter.ofMapping document).mapError .query
  let f ← o.fields.foldlM addField base
  return withPaging o f

/-! ## The answer -/

/-- The envelope of a response as a value. -/
def responseValue (r : Response Record) : Value :=
  .mapping ([(.text "items", .sequence (r.items.map Record.toValue)),
    (.text "page", .ofInt r.page), (.text "pageSize", .ofInt r.pageSize),
    (.text "totalCount", .ofInt r.totalCount)] ++
    (r.failure.map fun e => (.text "error", .text e.message)).toList)

/-- A value in a format. -/
def render (format : Format) (v : Value) : Except RunFailure String :=
  match format with
  | .json => v.toJson.mapError .unwritableJson
  | .yaml => v.toYaml.mapError .unwritableYaml

/-- A rendered answer as it is printed: with one line end after it. -/
def printed (text : String) : String := String.ofList (Text.trimEnd text.toList) ++ "\n"

/-- The exit code of a response. -/
def exitCode (r : Response Record) : Nat :=
  if r.failure.isSome then 2 else if r.isEmpty then 1 else 0

/-! ## The run -/

/-- The configuration that the options ask for. -/
def readConfig (s : Surroundings) : Option String → Except RunFailure FilterConfig
  | none => .ok .standard
  | some path =>
    match s.files.readText s.directory path with
    | .error cause => .error (.configUnreadable path cause)
    | .ok text =>
      match FilterConfig.ofYaml? text with
      | some config => .ok config
      | none => .error (.configInvalid path)

/-- Where the records are; the standard input comes before a path. -/
def recordSource (s : Surroundings) (o : Options) : Except RunFailure RecordSource :=
  if o.stdin then
    match s.input with
    | some text => .ok (.ofListing text)
    | none => .error .inputUnreadable
  else match o.records with
    | some path => .ok (.path path)
    | none => .error .noRecords

/-- The schema that the options ask for: the properties that they name, or else those of the
records. -/
def schemaFor (o : Options) (records : List Record) : Schema :=
  if o.properties.isEmpty then .ofRecords o.entityName records
  else ⟨o.entityName, o.properties.map fun p => String.ofList (Text.trim p.toList)⟩

/-- What a query needs. -/
structure Request where
  service : QueryService
  schema : Schema
  records : List Record
  filter : DocumentFilter

/-- What the options ask to be queried. -/
def prepare (s : Surroundings) (o : Options) : Except RunFailure Request := do
  let config ← readConfig s o.config
  let source ← recordSource s o
  let records := source.load s.walker s.files s.directory
  let filter ← buildFilter s o
  return ⟨.ofConfig config, schemaFor o records, records, filter⟩

/-- The line that explains a request, if it is asked for. -/
def explanation (o : Options) (r : Request) : Except RunFailure String :=
  if o.explain then
    ((r.service.compileFilter r.filter r.schema).mapError .query).map fun p => p.toText ++ "\n"
  else .ok ""

/-- The response to a request. -/
def respond (r : Request) : Response Record :=
  .ofResult (r.service.query r.filter r.schema r.records)

/-- The end of a run whose request is ready. -/
def answer (o : Options) (r : Request) : Outcome :=
  match explanation o r with
  | .error failure => .failed failure ""
  | .ok errors =>
    let response := respond r
    match render o.outputFormat (responseValue response) with
    | .error failure => .failed failure errors
    | .ok text => .answered (exitCode response) (printed text) errors

/-- The outcome of a run with options. -/
def runOptions (s : Surroundings) (o : Options) : Outcome :=
  match prepare s o with
  | .error failure => .failed failure ""
  | .ok r => answer o r

/-- The paths that a run with options looks at. -/
def neededPaths (o : Options) (input : Option String) : List String :=
  let listed := match o.stdin, RecordSource.ofListing (input.getD "") with
    | true, .files paths => paths
    | _, _ => []
  o.config.toList ++ o.filter.toList ++ (if o.stdin then [] else o.records.toList) ++ listed

/-- The outcome of a run with arguments. -/
def run (s : Surroundings) (arguments : List String) : Outcome :=
  match Options.ofArguments arguments s.environment with
  | .error stop => .stopped stop
  | .ok o => runOptions s o

end RecordQuery.CommandLine
