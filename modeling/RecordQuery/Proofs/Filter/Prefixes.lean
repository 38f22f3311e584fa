import Mathlib.Data.List.Infix
import RecordQuery.Filter.Prefixes
import RecordQuery.Proofs.Outcome

/-!
# Taking prefixes off

The prefixes are tried in one order, so a spelling that starts another one hides it. Where no
spelling starts another, as with the standard ones, taking a prefix off undoes putting it in front,
whatever the name. Where some do, it is undone exactly if no prefix that is tried before starts the
field, and else the first prefix that does is taken off instead.

A configuration is made a table in two ways, with standard spellings for what is not configured, or
not at all if anything is not. Both go through the prefixes in the order in which they are tried,
and where both give a table it is the same one.

* `PrefixTable.strip?_eq_some_iff`: which prefix is taken off, and what is left.
* `PrefixTable.strip?_eq_none_iff`: a field without a prefix starts with no spelling.
* `PrefixTable.strip?_spelling_append`: the prefix and the name come back.
* `FilterConfig.strictTable_eq_ok_iff`, `FilterConfig.strictTable_eq_error_iff`: the strict table, and
  the prefix that is reported for the lack of it.
* `FilterConfig.table_inverts`: what the table of any configuration takes off.
-/

namespace RecordQuery

/-! ## The order of the prefixes -/

namespace Prefix

/-- The prefix is tried before the other one. -/
def Precedes (q p : Prefix) : Prop := priority.idxOf q < priority.idxOf p

instance (q p : Prefix) : Decidable (q.Precedes p) := inferInstanceAs (Decidable (_ < _))

theorem Precedes.ne {q p : Prefix} (h : q.Precedes p) : q ≠ p := by
  rintro rfl
  exact Nat.lt_irrefl _ h

/-- What stands before a prefix in the list is what is tried before it. -/
theorem mem_before_iff {before after : List Prefix} {p : Prefix}
    (h : priority = before ++ p :: after) (q : Prefix) : q ∈ before ↔ q.Precedes p := by
  have hnodup : (before ++ p :: after).Nodup := h ▸ by decide
  have hp : p ∉ before := fun hmem =>
    (List.nodup_append.mp hnodup).2.2 p hmem p List.mem_cons_self rfl
  have hplace : priority.idxOf p = before.length := by
    rw [h, List.idxOf_append_of_notMem hp, List.idxOf_cons_self, Nat.add_zero]
  rw [Precedes, hplace, h]
  constructor
  · intro hq
    rw [List.idxOf_append_of_mem hq]
    exact List.idxOf_lt_length_of_mem hq
  · intro hlt
    by_contra hq
    rw [List.idxOf_append_of_notMem hq] at hlt
    omega

end Prefix

/-! ## What is taken off -/

namespace PrefixTable

variable {t : PrefixTable} {p : Prefix} {field rest : String}

/-- The spelling of a prefix starts a field. -/
def Starts (t : PrefixTable) (p : Prefix) (field : String) : Prop :=
  (t.spelling p).toList <+: field.toList

instance (t : PrefixTable) (p : Prefix) (field : String) : Decidable (t.Starts p field) :=
  inferInstanceAs (Decidable (_ <+: _))

/-- No spelling starts another one. -/
def IsPrefixFree (t : PrefixTable) : Prop :=
  ∀ p q, (t.spelling p).toList <+: (t.spelling q).toList → p = q

/-- The field is the prefix and the rest, and no prefix that is tried before starts it. -/
def Splits (t : PrefixTable) (field : String) (p : Prefix) (rest : String) : Prop :=
  field = t.spelling p ++ rest ∧ ∀ q, q.Precedes p → ¬ t.Starts q field

theorem starts_spelling_append (t : PrefixTable) (p : Prefix) (rest : String) :
    t.Starts p (t.spelling p ++ rest) := by
  rw [Starts, String.toList_append]
  exact List.prefix_append _ _

theorem dropLead?_eq_none_iff {lead s : List Char} : dropLead? lead s = none ↔ ¬ lead <+: s := by
  rw [← Option.not_isSome_iff_eq_none, Option.isSome_iff_exists, not_iff_not]
  exact exists_congr fun rest => dropLead?_eq_some_iff.trans eq_comm

/-- **A field without a prefix** starts with no spelling. -/
theorem strip?_eq_none_iff : t.strip? field = none ↔ ∀ p, ¬ t.Starts p field := by
  simp only [strip?, List.findSome?_eq_none_iff, Option.map_eq_none_iff, dropLead?_eq_none_iff]
  exact ⟨fun h p => h p (Prefix.mem_priority p), fun h p _ => h p⟩

/-- **The prefix that is taken off** is the first one that starts the field, and the rest is what
follows it. -/
theorem strip?_eq_some_iff : t.strip? field = some (p, rest) ↔ t.Splits field p rest := by
  rw [strip?, List.findSome?_eq_some_iff]
  constructor
  · rintro ⟨before, q, after, hpriority, hq, hbefore⟩
    obtain ⟨tail, hdrop, hpair⟩ := Option.map_eq_some_iff.mp hq
    obtain ⟨rfl, rfl⟩ := Prod.mk.inj hpair
    refine ⟨?_, fun r hr => ?_⟩
    · rw [← String.toList_inj, String.toList_append, String.toList_ofList]
      exact dropLead?_eq_some_iff.mp hdrop
    · have hnone := hbefore r ((Prefix.mem_before_iff hpriority r).mpr hr)
      exact dropLead?_eq_none_iff.mp (Option.map_eq_none_iff.mp hnone)
  · rintro ⟨rfl, hfirst⟩
    obtain ⟨before, after, hpriority, -⟩ := List.eq_append_cons_of_mem (Prefix.mem_priority p)
    refine ⟨before, p, after, hpriority, ?_, fun q hq => ?_⟩
    · rw [dropLead?_eq_some_iff.mpr String.toList_append, Option.map_some, String.ofList_toList]
    · rw [Option.map_eq_none_iff, dropLead?_eq_none_iff]
      exact hfirst q ((Prefix.mem_before_iff hpriority q).mp hq)

/-- Of the prefixes that start a field, one is tried first and taken off. -/
theorem exists_splits (h : t.Starts p field) :
    ∃ q rest, (q = p ∨ q.Precedes p) ∧ t.strip? field = some (q, rest) ∧ t.Splits field q rest := by
  cases hstrip : t.strip? field with
  | none => exact absurd h (strip?_eq_none_iff.mp hstrip p)
  | some found =>
    have hsplits : t.Splits field found.1 found.2 := strip?_eq_some_iff.mp hstrip
    refine ⟨found.1, found.2, ?_, rfl, hsplits⟩
    by_contra hlate
    obtain ⟨hne, hnot⟩ := not_or.mp hlate
    have hplaces : Prefix.priority.idxOf p ≠ Prefix.priority.idxOf found.1 := fun hsame =>
      hne (List.idxOf_inj (Prefix.mem_priority p) |>.mp hsame).symm
    exact hsplits.2 p (Nat.lt_of_le_of_ne (Nat.le_of_not_lt hnot) hplaces) h

/-- **A prefix that is put in front of a name is taken off again**, if no spelling starts another.
-/
theorem strip?_spelling_append (h : t.IsPrefixFree) (p : Prefix) (name : String) :
    t.strip? (t.spelling p ++ name) = some (p, name) := by
  refine strip?_eq_some_iff.mpr ⟨rfl, fun q hq hstarts => ?_⟩
  -- an earlier prefix would start with this one, or this one with it
  rcases List.prefix_or_prefix_of_prefix hstarts (t.starts_spelling_append p name) with hqp | hpq
  · exact hq.ne (h q p hqp)
  · exact hq.ne (h p q hpq).symm

/-- What is left of a field is shorter, if the prefix is not empty. -/
theorem Splits.length_lt (h : t.Splits field p rest) (hne : t.spelling p ≠ "") :
    rest.length < field.length := by
  have hpos : 0 < (t.spelling p).length := by
    rw [Nat.pos_iff_ne_zero, ne_eq, String.length_eq_zero_iff]
    exact hne
  rw [h.1, String.length_append]
  omega

theorem isPrefixFree_standard : standard.IsPrefixFree := by
  intro p q
  cases p <;> cases q <;> decide

/-- Entries that hold a spelling for every prefix give the table of these spellings. -/
theorem ofEntries_map (spelled : Prefix → String) :
    ofEntries (Prefix.priority.map fun p => (p, spelled p)) = ⟨spelled⟩ := by
  refine congrArg PrefixTable.mk (funext fun p => ?_)
  cases p <;> rfl

end PrefixTable

/-! ## The tables of a configuration -/

namespace FilterConfig

variable {config : FilterConfig} {p : Prefix} {s : String}

/-- The configuration spells the prefix so; an empty text is no spelling. -/
def Spells (config : FilterConfig) (p : Prefix) (s : String) : Prop :=
  config.spelling? p = some s ∧ s ≠ ""

theorem configured?_eq_some_iff : config.configured? p = some s ↔ config.Spells p s := by
  rw [configured?, Option.filter_eq_some_iff, decide_eq_true_eq, Spells]

theorem table_spelling (config : FilterConfig) (p : Prefix) :
    config.table.spelling p = (config.configured? p).getD p.standard := rfl

/-- The standard configuration has the standard table. -/
theorem table_standard : standard.table = PrefixTable.standard :=
  congrArg PrefixTable.mk (funext fun p => by cases p <;> rfl)

theorem table_spelling_eq (h : config.Spells p s) : config.table.spelling p = s := by
  rw [table_spelling, configured?_eq_some_iff.mpr h, Option.getD_some]

theorem table_spelling_ne (config : FilterConfig) (p : Prefix) : config.table.spelling p ≠ "" := by
  rw [table_spelling]
  cases h : config.configured? p with
  | none => cases p <;> decide
  | some s => exact (configured?_eq_some_iff.mp h).2

theorem required_eq_error_iff {q : Prefix} :
    config.required p = .error q ↔ q = p ∧ ¬ ∃ s, config.Spells p s := by
  simp only [← configured?_eq_some_iff, required]
  cases config.configured? p <;> simp [eq_comm]

theorem required_of_exists (h : ∃ s, config.Spells p s) :
    config.required p = .ok (p, config.table.spelling p) := by
  obtain ⟨s, hs⟩ := h
  rw [required, configured?_eq_some_iff.mpr hs, table_spelling_eq hs]

theorem exists_spells_of_required {entry : Prefix × String} (h : config.required p = .ok entry) :
    ∃ s, config.Spells p s := by
  by_contra hnone
  rw [required_eq_error_iff.mpr ⟨rfl, hnone⟩] at h
  cases h

/-- **The strict table** is there iff every prefix is spelled, and it is the other table then. -/
theorem strictTable_eq_ok_iff {t : PrefixTable} :
    config.strictTable = .ok t ↔ (∀ p, ∃ s, config.Spells p s) ∧ t = config.table := by
  have hmap (h : ∀ p, ∃ s, config.Spells p s) : config.strictTable = .ok config.table := by
    rw [strictTable, mapM_eq_ok_map fun p _ => required_of_exists (h p)]
    exact congrArg Except.ok (PrefixTable.ofEntries_map config.table.spelling)
  constructor
  · intro h
    have hall : ∀ p, ∃ s, config.Spells p s := by
      obtain ⟨entries, hentries, -⟩ := map_eq_ok_iff.mp h
      intro p
      obtain ⟨entry, -, hentry⟩ :=
        exists_of_forall₂ (mapM_eq_ok_iff.mp hentries) (Prefix.mem_priority p)
      exact exists_spells_of_required hentry
    rw [hmap hall] at h
    exact ⟨hall, (Except.ok.inj h).symm⟩
  · rintro ⟨hall, rfl⟩
    exact hmap hall

/-- **The prefix that is reported** is the first one that is not spelled. -/
theorem strictTable_eq_error_iff :
    config.strictTable = .error p ↔
      (¬ ∃ s, config.Spells p s) ∧ ∀ q, q.Precedes p → ∃ s, config.Spells q s := by
  rw [strictTable, map_eq_error_iff, mapM_eq_error_iff]
  constructor
  · rintro ⟨before, q, after, hpriority, hbefore, hq⟩
    obtain ⟨rfl, hnone⟩ := required_eq_error_iff.mp hq
    refine ⟨hnone, fun r hr => ?_⟩
    obtain ⟨entry, hentry⟩ := hbefore r ((Prefix.mem_before_iff hpriority r).mpr hr)
    exact exists_spells_of_required hentry
  · rintro ⟨hnone, hbefore⟩
    obtain ⟨before, after, hpriority, -⟩ := List.eq_append_cons_of_mem (Prefix.mem_priority p)
    refine ⟨before, p, after, hpriority, fun q hq => ?_, required_eq_error_iff.mpr ⟨rfl, hnone⟩⟩
    exact ⟨_, required_of_exists (hbefore q ((Prefix.mem_before_iff hpriority q).mp hq))⟩

/-- **Which prefix a configured field starts with.** The table of a configuration spells each prefix
with a text that is not empty, the configured one if there is one. It takes a prefix that is put in
front of a text off again exactly if no prefix that is tried before starts the whole, and else the
first prefix that does, with what follows that one. Nothing is taken off of a field that no spelling
starts, and of every other field something, so that less is left. Where no spelling starts another,
which holds of the standard ones, each prefix comes off of each text.

The strict table is this table, and there is one iff the configuration spells every prefix; else the
first prefix that it does not spell is named. -/
theorem table_inverts (config : FilterConfig) :
    (∀ p, config.table.spelling p ≠ "" ∧
      ∀ s, config.Spells p s → config.table.spelling p = s) ∧
    (∀ p rest,
      (config.table.strip? (config.table.spelling p ++ rest) = some (p, rest) ↔
        ∀ q, q.Precedes p → ¬ config.table.Starts q (config.table.spelling p ++ rest)) ∧
      ∀ r, r.Precedes p → config.table.Starts r (config.table.spelling p ++ rest) →
        ∃ q tail, q.Precedes p ∧
          config.table.strip? (config.table.spelling p ++ rest) = some (q, tail) ∧
          config.table.Splits (config.table.spelling p ++ rest) q tail) ∧
    (∀ field,
      (config.table.strip? field = none ↔ ∀ p, ¬ config.table.Starts p field) ∧
      ∀ p rest, config.table.strip? field = some (p, rest) → rest.length < field.length) ∧
    (config.table.IsPrefixFree →
      ∀ p rest, config.table.strip? (config.table.spelling p ++ rest) = some (p, rest)) ∧
    standard.table.IsPrefixFree ∧
    (∀ t, config.strictTable = .ok t ↔ (∀ p, ∃ s, config.Spells p s) ∧ t = config.table) ∧
    ∀ p, config.strictTable = .error p ↔
      (¬ ∃ s, config.Spells p s) ∧ ∀ q, q.Precedes p → ∃ s, config.Spells q s := by
  refine ⟨fun p => ⟨config.table_spelling_ne p, fun s => table_spelling_eq⟩,
    fun p rest => ⟨?_, fun r hr hstarts => ?_⟩,
    fun field => ⟨PrefixTable.strip?_eq_none_iff, fun p rest hstrip => ?_⟩,
    PrefixTable.strip?_spelling_append, table_standard ▸ PrefixTable.isPrefixFree_standard,
    fun t => strictTable_eq_ok_iff, fun p => strictTable_eq_error_iff⟩
  · rw [PrefixTable.strip?_eq_some_iff, PrefixTable.Splits]
    exact and_iff_right rfl
  · obtain ⟨q, tail, hq, hstrip, hsplits⟩ := PrefixTable.exists_splits hstarts
    refine ⟨q, tail, ?_, hstrip, hsplits⟩
    rcases hq with rfl | hq
    · exact hr
    · exact Nat.lt_trans hq hr
  · exact (PrefixTable.strip?_eq_some_iff.mp hstrip).length_lt (config.table_spelling_ne p)

/-- A configuration in which the spelling of one prefix starts that of another, and an empty text is
no spelling. -/
def overlapping : FilterConfig where
  modelNamespace := none
  spelling?
    | .atMost => some "Lim"
    | .atLeast => some "Limit"
    | .since => some ""
    | _ => none

/-- The shorter spelling is tried first and hides the longer one. -/
theorem table_inverts_hidden :
    Prefix.Precedes .atMost .atLeast ∧ overlapping.table.Starts .atMost ("Limit" ++ "X") ∧
      (∃ q tail, q.Precedes .atLeast ∧
        overlapping.table.strip? ("Limit" ++ "X") = some (q, tail) ∧
        overlapping.table.Splits ("Limit" ++ "X") q tail) ∧
      overlapping.table.strip? "LimitX" = some (.atMost, "itX") ∧
      "itX".length < "LimitX".length := by
  have hprecedes : Prefix.Precedes .atMost .atLeast := by decide
  have hstarts : overlapping.table.Starts .atMost ("Limit" ++ "X") := by decide
  have hstrip : overlapping.table.strip? "LimitX" = some (.atMost, "itX") := by cbv
  exact ⟨hprecedes, hstarts,
    ((table_inverts overlapping).2.1 .atLeast "X").2 .atMost hprecedes hstarts, hstrip,
    ((table_inverts overlapping).2.2.1 "LimitX").2 .atMost "itX" hstrip⟩

end FilterConfig

end RecordQuery
