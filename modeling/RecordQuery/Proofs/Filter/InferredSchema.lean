import RecordQuery.Proofs.Filter.Binding
import RecordQuery.Proofs.Text.Lower
import RecordQuery.Proofs.Value.Mapping

/-!
# Inferred schemas

A schema that is inferred from records lists their text keys as they are spelled, each spelling once.
Properties are looked up by their lower-case form, in the schema as in a record, so where records
spell a property differently only the first spelling of the schema can be found, and records that
spell it otherwise are asked for a key that they do not have. They answer with the first key that is
the same in lower case: no key of a record is out of reach of a filter.

* `Schema.listsFirstSeen_foldl`: keys are listed once, in the order in which they are first seen.
* `Schema.resolve?_eq_some_iff`: a candidate is resolved to the first property like it.
* `Record.find?_eq_some_iff`: which value a record gives for a property.
* `Schema.ofRecords_reaches`: what a record gives for each of its keys, in any spelling.
-/

namespace RecordQuery

/-! ## The first in a list -/

/-- The element is the first of the list that has the property. -/
def IsFirst {α : Type} (P : α → Prop) (l : List α) (a : α) : Prop :=
  ∃ before after, l = before ++ a :: after ∧ P a ∧ ∀ b ∈ before, ¬ P b

theorem find?_eq_some_iff_isFirst {α : Type} {q : α → Bool} {P : α → Prop}
    (hq : ∀ a, q a = true ↔ P a) {l : List α} {a : α} : l.find? q = some a ↔ IsFirst P l a := by
  rw [List.find?_eq_some_iff_append, hq]
  constructor
  · rintro ⟨ha, before, after, hsplit, hbefore⟩
    exact ⟨before, after, hsplit, ha, fun b hb hP => by simpa [(hq b).mpr hP] using hbefore b hb⟩
  · rintro ⟨before, after, hsplit, ha, hbefore⟩
    exact ⟨ha, before, after, hsplit, fun b hb => by simpa [← hq b] using hbefore b hb⟩

/-! ## Names in the order of first appearance -/

/-- The names are what has been seen, each once, in the order in which it was first seen. -/
structure ListsFirstSeen (names seen : List String) : Prop where
  nodup : names.Nodup
  mem_iff : ∀ k, k ∈ names ↔ k ∈ seen
  ordered : names.Pairwise fun p q => seen.idxOf p < seen.idxOf q

namespace Schema

variable {names seen : List String} {name k : String} {schema : Schema} {candidate property : String}

/-- **One more name is seen**: it is listed unless it is listed already. -/
theorem listsFirstSeen_addName (h : ListsFirstSeen names seen) (k : String) :
    ListsFirstSeen (addName names k) (seen ++ [k]) := by
  have hplace {p : String} (hp : p ∈ names) : (seen ++ [k]).idxOf p = seen.idxOf p :=
    List.idxOf_append_of_mem ((h.mem_iff p).mp hp)
  have hordered : names.Pairwise fun p q => (seen ++ [k]).idxOf p < (seen ++ [k]).idxOf q :=
    h.ordered.imp_of_mem fun hp hq hlt => by rwa [hplace hp, hplace hq]
  unfold addName
  split
  · rename_i hk
    have hk : k ∈ names := List.contains_iff_mem.mp hk
    refine ⟨h.nodup, fun p => ?_, hordered⟩
    rw [h.mem_iff, List.mem_append, List.mem_singleton]
    refine (or_iff_left_of_imp ?_).symm
    rintro rfl
    exact (h.mem_iff p).mp hk
  · rename_i hk
    have hk : k ∉ names := fun hmem => hk (List.contains_iff_mem.mpr hmem)
    have hnew : (seen ++ [k]).idxOf k = seen.length := by
      rw [List.idxOf_append_of_notMem fun hmem => hk ((h.mem_iff k).mpr hmem),
        List.idxOf_cons_self, Nat.add_zero]
    refine ⟨?_, fun p => ?_, ?_⟩
    · exact List.nodup_append.mpr ⟨h.nodup, List.pairwise_singleton _ k,
        fun p hp q hq hpq => hk (List.mem_singleton.mp hq ▸ hpq ▸ hp)⟩
    · rw [List.mem_append, List.mem_append, h.mem_iff]
    · refine List.pairwise_append.mpr ⟨hordered, List.pairwise_singleton _ k, fun p hp q hq => ?_⟩
      rw [List.mem_singleton.mp hq, hnew, hplace hp]
      exact List.idxOf_lt_length_of_mem ((h.mem_iff p).mp hp)

/-- **Names that are added one by one** are listed in the order in which they are first seen. -/
theorem listsFirstSeen_foldl (seen : List String) :
    ListsFirstSeen (seen.foldl addName []) seen := by
  induction seen using List.reverseRecOn with
  | nil => exact ⟨List.nodup_nil, fun _ => Iff.rfl, List.Pairwise.nil⟩
  | append_singleton seen k ih =>
    rw [List.foldl_append]
    exact listsFirstSeen_addName ih k

/-! ## Looking names up -/

/-- **A candidate is resolved to the first property like it.** -/
theorem resolve?_eq_some_iff :
    schema.resolve? candidate = some property ↔
      IsFirst (fun p => Text.lower p = Text.lower candidate) schema.properties property :=
  find?_eq_some_iff_isFirst fun _ => beq_iff_eq

/-- A candidate like a property is resolved. -/
theorem exists_resolve? (hmem : property ∈ schema.properties)
    (hlower : Text.lower property = Text.lower candidate) :
    ∃ p, schema.resolve? candidate = some p := by
  refine Option.ne_none_iff_exists'.mp fun hnone => ?_
  exact List.find?_eq_none.mp hnone property hmem (beq_iff_eq.mpr hlower)

end Schema

namespace Record

variable {r : Record} {property k : String} {v : Value}

/-- The text key of an entry is the same as the property in lower case. -/
def IsKeyFor (property : String) (e : Value × Value) : Prop :=
  ∃ k, e.1.asText? = some k ∧ Text.lower k = Text.lower property

/-- The record gives the value for a property: under the key that is spelled so, or, if there is no
such key, under the first text key that is the same in lower case. -/
inductive Gives (r : Record) (property : String) (v : Value) : Prop where
  | exact (h : IsFirst (fun e => e.1 = .text property) r.entries (.text property, v))
  | folded {key : Value} (hnone : .text property ∉ r.entries.keys)
      (h : IsFirst (IsKeyFor property) r.entries (key, v))

/-- An entry is found under a text key iff it is the first one with that key. -/
theorem findText?_eq_some_iff :
    r.entries.findText? property = some v ↔
      IsFirst (fun e => e.1 = .text property) r.entries (.text property, v) := by
  rw [Mapping.findText?, Mapping.find?, Option.map_eq_some_iff]
  simp only [find?_eq_some_iff_isFirst fun _ => Value.same_text_iff]
  constructor
  · rintro ⟨⟨key, w⟩, hfirst, rfl⟩
    obtain ⟨before, after, hsplit, rfl, hbefore⟩ := hfirst
    exact ⟨before, after, hsplit, rfl, hbefore⟩
  · exact fun hfirst => ⟨_, hfirst, rfl⟩

theorem findText?_eq_none_iff :
    r.entries.findText? property = none ↔ .text property ∉ r.entries.keys := by
  rw [Mapping.findText?, Mapping.find?, Option.map_eq_none_iff, List.find?_eq_none]
  simp only [Value.same_text_iff, Mapping.keys, List.mem_map, not_exists, not_and]

theorem any_lower_iff {e : Value × Value} :
    (e.1.asText?.any fun k => Text.lower k == Text.lower property) = true ↔
      IsKeyFor property e := by
  simp only [Option.any_eq_true, beq_iff_eq, IsKeyFor]

/-- **What a record gives for a property.** -/
theorem find?_eq_some_iff : r.find? property = some v ↔ r.Gives property v := by
  have hfold : (r.entries.findTextKey? fun k => Text.lower k == Text.lower property) = some v ↔
      ∃ key, IsFirst (IsKeyFor property) r.entries (key, v) := by
    rw [Mapping.findTextKey?, Option.map_eq_some_iff]
    simp only [find?_eq_some_iff_isFirst fun _ => any_lower_iff]
    constructor
    · rintro ⟨⟨key, w⟩, hfirst, rfl⟩
      exact ⟨key, hfirst⟩
    · rintro ⟨key, hfirst⟩
      exact ⟨_, hfirst, rfl⟩
  rw [find?, Option.orElse_eq_or, Option.or_eq_some_iff, findText?_eq_some_iff,
    findText?_eq_none_iff, hfold]
  constructor
  · rintro (hexact | ⟨hnone, key, hfirst⟩)
    · exact .exact hexact
    · exact .folded hnone hfirst
  · rintro (hexact | ⟨hnone, hfirst⟩)
    · exact .inl hexact
    · exact .inr ⟨hnone, _, hfirst⟩

/-- A property that is the same as a text key in lower case is found. -/
theorem exists_find? (hk : k ∈ r.keys) (hlower : Text.lower k = Text.lower property) :
    ∃ v, r.find? property = some v := by
  obtain ⟨e, he, hkey⟩ := List.mem_filterMap.mp hk
  refine Option.ne_none_iff_exists'.mp fun hnone => ?_
  rw [find?, Option.orElse_eq_or, Option.or_eq_none_iff] at hnone
  exact List.find?_eq_none.mp (Option.map_eq_none_iff.mp hnone.2) e he
    (any_lower_iff.mpr ⟨k, hkey, hlower⟩)

end Record

/-! ## The schema of records -/

/-- **An inferred schema reaches every key.** It lists the text keys of the records, each spelling
once and in the order in which they are first seen. For each key of one of the records, every
spelling that is the same in lower case is resolved to the first listed property like it, which is
resolved to itself, and the record gives a value for that property: that of the key spelled so if it
has one, and else that of its first text key like it. -/
theorem Schema.ofRecords_reaches (name : String) (records : List Record) :
    ListsFirstSeen (ofRecords name records).properties (records.flatMap Record.keys) ∧
    ∀ r ∈ records, ∀ k ∈ r.keys, ∀ c, Text.lower c = Text.lower k →
      ∃ p v, (ofRecords name records).resolve? c = some p ∧
        IsFirst (fun q => Text.lower q = Text.lower k) (ofRecords name records).properties p ∧
        (ofRecords name records).resolve? p = some p ∧ r.find? p = some v ∧ r.Gives p v := by
  have hlisted := listsFirstSeen_foldl (records.flatMap Record.keys)
  refine ⟨hlisted, fun r hr k hk c hc => ?_⟩
  have hmem : k ∈ (ofRecords name records).properties :=
    (hlisted.mem_iff k).mpr (List.mem_flatMap.mpr ⟨r, hr, hk⟩)
  obtain ⟨p, hp⟩ := exists_resolve? hmem hc.symm
  obtain ⟨-, hlower⟩ := resolve?_eq_some hp
  obtain ⟨v, hv⟩ := Record.exists_find? hk (hc.symm.trans hlower.symm)
  refine ⟨p, v, hp, ?_, resolve?_resolved hp, hv, Record.find?_eq_some_iff.mp hv⟩
  rw [← hc]
  exact resolve?_eq_some_iff.mp hp

/-- A record with the spelling that is listed. -/
def listedRow : Record := ⟨[(.text "Name", .text "a"), (.text "Id", .bool true)]⟩

/-- A record that spells the same property in two other ways, one of them under a tag. -/
def unlikeRow : Record := ⟨[(.text "NAME", .text "b"), (.tagged "t" (.text "name"), .null)]⟩

example : (Schema.ofRecords "Row" [listedRow, unlikeRow]).properties =
    ["Name", "Id", "NAME", "name"] := by cbv

/-- A record without the listed spelling gives what stands under its first key like it. -/
theorem Schema.ofRecords_reaches_unlike :
    unlikeRow ∈ [listedRow, unlikeRow] ∧ "name" ∈ unlikeRow.keys ∧
      Text.lower "nAmE" = Text.lower "name" ∧ .text "Name" ∉ unlikeRow.entries.keys ∧
      ∃ p v, (ofRecords "Row" [listedRow, unlikeRow]).resolve? "nAmE" = some p ∧
        IsFirst (fun q => Text.lower q = Text.lower "name")
          (ofRecords "Row" [listedRow, unlikeRow]).properties p ∧
        (ofRecords "Row" [listedRow, unlikeRow]).resolve? p = some p ∧
        unlikeRow.find? p = some v ∧ unlikeRow.Gives p v := by
  have hr : unlikeRow ∈ [listedRow, unlikeRow] := List.mem_cons_of_mem _ List.mem_cons_self
  have hk : "name" ∈ unlikeRow.keys := by decide
  have hc : Text.lower "nAmE" = Text.lower "name" :=
    Text.lower_eq_of_sameAscii (by decide) (by decide)
  exact ⟨hr, hk, hc, by simp [unlikeRow, Mapping.keys],
    (ofRecords_reaches "Row" [listedRow, unlikeRow]).2 unlikeRow hr "name" hk "nAmE" hc⟩

end RecordQuery
