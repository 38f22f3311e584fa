/-!
# Field prefixes

The start of a filter field's name says how the field compares: `MaxId` bounds the property `Id`
from above. Six prefixes are recognised, tried in one fixed order, and the first one whose spelling
starts the name is taken. A configuration may respell each of them.

* `PrefixTable.strip?`: `strip`, the first prefix that starts a field, and what is left of it.
* `FilterConfig.table`: `prefixes_or_default`, where unspelled prefixes take their standard spelling.
* `FilterConfig.strictTable`: `prefixes`, which fails on the first prefix that is not spelled.
-/

namespace RecordQuery

/-- A recognised prefix. -/
inductive Prefix where
  | atMost
  | atLeast
  | since
  | upTo
  | containing
  | among
  deriving DecidableEq

namespace Prefix

/-- All prefixes, in the order in which they are tried. -/
def priority : List Prefix := [.atMost, .atLeast, .since, .upTo, .containing, .among]

/-- The standard spelling, which also names the prefix in messages. -/
def standard : Prefix → String
  | .atMost => "Max"
  | .atLeast => "Min"
  | .since => "From"
  | .upTo => "To"
  | .containing => "Contains"
  | .among => "List"

/-- The key that respells the prefix in a configuration. -/
def configKey : Prefix → String
  | .atMost => "max"
  | .atLeast => "min"
  | .since => "from"
  | .upTo => "to"
  | .containing => "contains"
  | .among => "list"

theorem mem_priority (p : Prefix) : p ∈ priority := by cases p <;> decide

end Prefix

/-- What follows `lead` in a text that starts with it. -/
def dropLead? : List Char → List Char → Option (List Char)
  | [], s => some s
  | a :: lead, c :: s => if a = c then dropLead? lead s else none
  | _ :: _, [] => none

theorem dropLead?_eq_some_iff {lead s rest : List Char} :
    dropLead? lead s = some rest ↔ s = lead ++ rest := by
  induction lead generalizing s with
  | nil => simp [dropLead?, eq_comm]
  | cons a lead ih =>
    cases s with
    | nil => simp [dropLead?]
    | cons c s =>
      by_cases h : a = c
      · simp [dropLead?, h, ih]
      · simp [dropLead?, h, Ne.symm h]

/-- The spelling of each prefix. -/
structure PrefixTable where
  spelling : Prefix → String

namespace PrefixTable

/-- The first prefix, in priority order, whose spelling starts the field, and the rest. -/
def strip? (t : PrefixTable) (field : String) : Option (Prefix × String) :=
  Prefix.priority.findSome? fun p =>
    (dropLead? (t.spelling p).toList field.toList).map fun rest => (p, String.ofList rest)

/-- The standard spellings. -/
def standard : PrefixTable := ⟨Prefix.standard⟩

/-- The spellings that entries give, the standard one for a prefix without an entry. -/
def ofEntries (entries : List (Prefix × String)) : PrefixTable :=
  ⟨fun p => (entries.lookup p).getD p.standard⟩

end PrefixTable

/-! ## Configuration -/

/-- The prefix options of a deployment. The namespace of the entity models informs hosts that
look schemas up by name. -/
structure FilterConfig where
  modelNamespace : Option String
  spelling? : Prefix → Option String

namespace FilterConfig

/-- Every prefix in its standard spelling. -/
def standard : FilterConfig := ⟨none, fun p => some p.standard⟩

/-- The spelling of a prefix, if it is configured and not empty. -/
def configured? (config : FilterConfig) (p : Prefix) : Option String :=
  (config.spelling? p).filter fun s => s ≠ ""

/-- The table of a configuration, with standard spellings for what is not configured. -/
def table (config : FilterConfig) : PrefixTable :=
  ⟨fun p => (config.configured? p).getD p.standard⟩

/-- The entry of a prefix that has to be configured; fails with the prefix if it is not. -/
def required (config : FilterConfig) (p : Prefix) : Except Prefix (Prefix × String) :=
  match config.configured? p with
  | some s => .ok (p, s)
  | none => .error p

/-- The table of a configuration that spells every prefix, else the first one it leaves out. -/
def strictTable (config : FilterConfig) : Except Prefix PrefixTable :=
  (Prefix.priority.mapM config.required).map PrefixTable.ofEntries

/-- The wording of a missing prefix. -/
def missingMessage (p : Prefix) : String := "filter prefix '" ++ p.standard ++ "' is not configured"

end FilterConfig

end RecordQuery
