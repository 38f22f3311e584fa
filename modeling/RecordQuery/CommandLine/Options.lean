import RecordQuery.Number.Numeral
import RecordQuery.Text.Blank

/-!
# Options of the command line

Options take their value from the same argument, after an equals sign, or from the next one, which
must not start with a hyphen unless it is one alone or, where a number is wanted, a negative number.
An option that holds one value and a flag are given once at most. Every other argument is a filter
field, and after two hyphens all are. The arguments are read in order, and the first that is wrong
or asks for help ends the reading. Two of the options can come from the environment instead. The
options are the fields of `Cli`.

* `Options.ofArguments`: the options of the arguments and the environment.
-/

namespace RecordQuery.CommandLine

/-- Why the reading of the arguments stopped. -/
inductive Stop where
  | help
  | misuse
  deriving DecidableEq

/-- The exit code of a stop. -/
def Stop.code : Stop → Nat
  | .help => 0
  | .misuse => 2

/-- How the answer is written. -/
inductive Format where
  | json
  | yaml
  deriving DecidableEq

/-- The options that take a value. -/
inductive Setting where
  | records
  | filter
  | config
  | entity
  | properties
  | sort
  | page
  | pageSize
  | format
  deriving DecidableEq

/-- The options that take no value. -/
inductive Flag where
  | stdin
  | explain
  deriving DecidableEq

/-- The setting of a name. -/
def Setting.ofName? (name : String) : Option Setting :=
  [("records", .records), ("filter", .filter), ("config", .config), ("entity", .entity),
    ("properties", .properties), ("sort", .sort), ("page", .page), ("page-size", .pageSize),
    ("format", .format)].lookup name

/-- The flag of a name. -/
def Flag.ofName? (name : String) : Option Flag :=
  [("stdin", .stdin), ("explain", .explain)].lookup name

/-- What the arguments ask for; an option that was not given is absent. -/
structure Options where
  records : Option String
  filter : Option String
  config : Option String
  entity : Option String
  properties : List String
  sort : Option String
  page : Option Int
  pageSize : Option Int
  format : Option Format
  stdin : Bool
  explain : Bool
  fields : List String
  deriving DecidableEq

namespace Options

/-- No option is given. -/
def none : Options where
  records := .none
  filter := .none
  config := .none
  entity := .none
  properties := []
  sort := .none
  page := .none
  pageSize := .none
  format := .none
  stdin := false
  explain := false
  fields := []

/-- The name of the entity in messages. -/
def entityName (o : Options) : String := o.entity.getD "Entity"

/-- The format of the answer. -/
def outputFormat (o : Options) : Format := o.format.getD .json

/-! ## Values -/

/-- A value that is given once, read by `read?`. -/
def once {α : Type} (before : Option α) (value : Option α) : Except Stop (Option α) :=
  match before, value with
  | .none, some x => .ok (some x)
  | _, _ => .error .misuse

/-- A path, which must not be empty. -/
def readPath? (value : String) : Option String := if value = "" then .none else some value

/-- A number of a page. -/
def readNumber? (value : String) : Option Int := Numeral.readInt64? value.toList

/-- A format by its name. -/
def readFormat? (value : String) : Option Format :=
  [("json", Format.json), ("yaml", Format.yaml)].lookup value

/-- The parts of a value between commas. -/
def commaParts (value : String) : List String :=
  (Text.splitWhere (· = ',') value.toList).map String.ofList

/-- The options with a setting given a value. -/
def set (o : Options) (value : String) : Setting → Except Stop Options
  | .records => (once o.records (readPath? value)).map fun records => { o with records }
  | .filter => (once o.filter (readPath? value)).map fun filter => { o with filter }
  | .config => (once o.config (readPath? value)).map fun config => { o with config }
  | .entity => (once o.entity (some value)).map fun entity => { o with entity }
  | .properties => .ok { o with properties := o.properties ++ commaParts value }
  | .sort => (once o.sort (some value)).map fun sort => { o with sort }
  | .page => (once o.page (readNumber? value)).map fun page => { o with page }
  | .pageSize => (once o.pageSize (readNumber? value)).map fun pageSize => { o with pageSize }
  | .format => (once o.format (readFormat? value)).map fun format => { o with format }

/-- The options with a flag raised, which must not be raised yet. -/
def raise (o : Options) : Flag → Except Stop Options
  | .stdin => if o.stdin then .error .misuse else .ok { o with stdin := true }
  | .explain => if o.explain then .error .misuse else .ok { o with explain := true }

/-! ## Arguments -/

/-- The argument writes a negative number. -/
def isNegativeNumber (argument : List Char) : Bool :=
  match argument with
  | '-' :: cs => (Numeral.natInBase? 10 cs).isSome
  | _ => false

/-- The argument can be the value of the setting before it. -/
def isValueFor (setting : Setting) (argument : String) : Bool :=
  let cs := argument.toList
  cs.head? ≠ some '-' || cs == ['-'] ||
    ((setting = .page || setting = .pageSize) && isNegativeNumber cs)

/-- The name of a long option and the value after an equals sign. -/
def splitLong (cs : List Char) : String × Option String :=
  match Text.splitFirst '=' cs with
  | some (name, value) => (String.ofList name, some (String.ofList value))
  | .none => (String.ofList cs, .none)

/-- Reads the arguments in order on top of the options found so far. -/
def read (o : Options) : List String → Except Stop Options
  | [] => .ok o
  | argument :: rest =>
    match argument.toList with
    | ['-', '-'] => .ok { o with fields := o.fields ++ rest }
    | '-' :: '-' :: cs =>
      let (name, value?) := splitLong cs
      match Setting.ofName? name, Flag.ofName? name, value? with
      | some setting, _, some value =>
        match o.set value setting with
        | .ok o => read o rest
        | .error e => .error e
      | some setting, _, .none =>
        match rest with
        | value :: rest =>
          if isValueFor setting value then
            match o.set value setting with
            | .ok o => read o rest
            | .error e => .error e
          else .error .misuse
        | [] => .error .misuse
      | .none, some flag, .none =>
        match o.raise flag with
        | .ok o => read o rest
        | .error e => .error e
      | .none, .none, .none => .error (if name = "help" then .help else .misuse)
      | _, _, _ => .error .misuse
    | '-' :: c :: _ => .error (if c = 'h' then .help else .misuse)
    | _ => read { o with fields := o.fields ++ [argument] } rest

/-! ## Environment -/

/-- The variable that stands for the records if they are not given. -/
def recordsVariable : String := "DYNQ_RECORDS"

/-- The variable that stands for the configuration if it is not given. -/
def configVariable : String := "DYNQ_CONFIG"

/-- A path that is given, or else the one of a variable. -/
def orVariable (given : Option String) (environment : List (String × String)) (name : String) :
    Except Stop (Option String) :=
  match given, environment.lookup name with
  | some path, _ => .ok (some path)
  | .none, .none => .ok .none
  | .none, some value =>
    match readPath? value with
    | some path => .ok (some path)
    | .none => .error .misuse

/-- The options of the arguments, completed from the environment. -/
def ofArguments (arguments : List String) (environment : List (String × String)) :
    Except Stop Options := do
  let o ← Options.none.read arguments
  let records ← orVariable o.records environment recordsVariable
  let config ← orVariable o.config environment configVariable
  return { o with records, config }

end Options

end RecordQuery.CommandLine
