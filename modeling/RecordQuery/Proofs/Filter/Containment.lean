import RecordQuery.Proofs.Filter.Integers
import RecordQuery.Proofs.Number.Written

/-!
# A scalar in its own text

A field with the prefix for substrings looks for the text of its value in the text of a property,
and the two texts come from two hands. A scalar is found in its own text as far as the hands agree:
texts, booleans and signed integers always, and the floats that documents write without an exponent
if their shortest decimal is the only one. An integer above the signed ones is looked for as its
nearest float, and is found iff that float is written with the digits of the integer.

* `occursIn_iff_infix`: the search finds every place.
* `Value.IsWrittenAlike.isPrefix`: what is asked for starts what it is looked for in.
* `Predicate.holds_contains_self`: what a field with the property's own value selects.
-/

namespace RecordQuery

/-- The search for a text is the infix relation. -/
theorem occursIn_iff_infix {needle s : List Char} :
    occursIn needle s = true ↔ needle <:+: s := by
  induction s with
  | nil => rw [occursIn, List.isEmpty_iff, List.infix_nil]
  | cons c cs ih =>
    rw [occursIn, Bool.or_eq_true, List.isPrefixOf_iff_prefix, ih, List.infix_cons_iff]

/-! ## The two texts of a scalar -/

namespace Value

/-- A boolean, a number or a text, under no tag. -/
def IsScalar : Value → Prop
  | .bool _ | .number _ | .text _ => True
  | _ => False

/-- The scalars whose two texts agree, up to the fraction of a whole number. -/
inductive IsWrittenAlike : Value → Prop
  | bool (b : Bool) : IsWrittenAlike (.bool b)
  | text (s : String) : IsWrittenAlike (.text s)
  | int (n : Int) (hn : FitsWord n) (hsigned : n ≤ Numeral.int64Max) :
      IsWrittenAlike (.number (.int n hn))
  | float (x : Double) (hplain : x.IsPlain) : IsWrittenAlike (.number (.float x))

theorem IsScalar.isNull {v : Value} (h : v.IsScalar) : v.isNull = false := by
  cases v <;> first | rfl | exact h.elim

/-- What a field with a scalar asks for, and what a property with it is read as. -/
theorem IsScalar.exists_texts {v : Value} (h : v.IsScalar) (field property : String) :
    ∃ x s, FilterValue.ofValue field v = .ok (some x) ∧ x.kind ≠ .list ∧
      coerce property v .text = .ok (some (.text s)) := by
  cases v with
  | bool b => exact ⟨.bool b, toString b, rfl, ValueKind.noConfusion, rfl⟩
  | number n => exact ⟨.ofNumber n, n.toText, rfl, FilterValue.kind_ofNumber_ne_list n, rfl⟩
  | text s => exact ⟨.text s, s, rfl, ValueKind.noConfusion, rfl⟩
  | _ => exact h.elim

/-- **The text that is asked for starts the text that it is looked for in.** -/
theorem IsWrittenAlike.isPrefix {v : Value} (h : v.IsWrittenAlike) {field property s : String}
    {x : FilterValue} (hx : FilterValue.ofValue field v = .ok (some x))
    (hs : coerce property v .text = .ok (some (.text s))) : x.toText.toList <+: s.toList := by
  cases h with
  | bool b =>
    cases hx
    cases hs
    exact List.prefix_rfl
  | text t =>
    cases hx
    cases hs
    exact List.prefix_rfl
  | int n hn hsigned =>
    cases hx
    cases hs
    rw [FilterValue.ofNumber_of_signed hn hsigned]
    exact List.prefix_rfl
  | float y hplain =>
    cases hx
    cases hs
    exact Double.isPrefix_render_of_isPlain hplain

end Value

/-! ## Fields -/

namespace Predicate

variable {schema : Schema} {r : Record} {name property : String} {v : Value}

/-- A field with the prefix for substrings looks for the text of its value. -/
theorem exists_run_contains {x : FilterValue} (hproperty : schema.resolve? name = some property)
    (hr : r.find? property = some v) {raw : Value} (hnull : raw.isNull = false)
    (hx : FilterValue.ofValue ("Contains" ++ name) raw = .ok (some x)) (hlist : x.kind ≠ .list) :
    ∃ d p, Descriptor.ofFields .standard schema [(.text ("Contains" ++ name), raw)] = .ok [d] ∧
      d.comparison = .substringMatch ∧ compile schema [d] = .ok p ∧
      p.holds r = Test.run property v (.contains x.toText) := by
  have hentry := Descriptor.ofEntry_of_split (Descriptor.split_spelling_append
    PrefixTable.isPrefixFree_standard .containing name) hnull hproperty hx
  have htest : Test.ofDescriptor
      ⟨"Contains" ++ name, some .containing, property, .substringMatch, x⟩ =
        .ok (.contains x.toText) := by
    cases x with
    | list items => exact absurd rfl hlist
    | _ => rfl
  obtain ⟨p, hbind, hcompile, hholds⟩ := exists_run_of_ofEntry hentry htest hr
  exact ⟨_, p, hbind, rfl, hcompile, hholds⟩

/-- **A scalar and its own text.** The field binds, compiles and evaluates on every record whose
property has the scalar that the field asks for. The record is selected if the scalar is a text, a
boolean, a signed integer, or a float that is written plainly. An integer above the signed ones is
asked for as its nearest float, so the record is selected iff that float, written with the fewest
digits, is the integer. -/
theorem holds_contains_self (hscalar : v.IsScalar)
    (hproperty : schema.resolve? name = some property) (hr : r.find? property = some v) :
    ∃ d p, Descriptor.ofFields .standard schema [(.text ("Contains" ++ name), v)] = .ok [d] ∧
      d.comparison = .substringMatch ∧ compile schema [d] = .ok p ∧
      (∃ b, p.holds r = .ok b) ∧ (v.IsWrittenAlike → p.holds r = .ok true) ∧
      ∀ n hn, v = .number (.int n hn) → Numeral.int64Max < n →
        (p.holds r = .ok true ↔ (Double.ofInt n).written .up = n) := by
  obtain ⟨x, s, hx, hlist, hs⟩ := hscalar.exists_texts ("Contains" ++ name) property
  have hnull : v.isNull = false := hscalar.isNull
  obtain ⟨d, p, hbind, hcomparison, hcompile, hrun⟩ :=
    exists_run_contains hproperty hr hnull hx hlist
  have hholds : p.holds r = .ok (occursIn x.toText.toList s.toList) := by
    rw [hrun, Test.run, hs]
    rfl
  refine ⟨d, p, hbind, hcomparison, hcompile, ⟨_, hholds⟩, fun halike => ?_, ?_⟩
  · rw [hholds, occursIn_iff_infix.mpr (halike.isPrefix hx hs).isInfix]
  · rintro n hn rfl hlarge
    cases hx
    cases hs
    rw [hholds, FilterValue.ofNumber_of_large hn hlarge, Except.ok.injEq, occursIn_iff_infix]
    exact Double.infix_render_ofInt_iff hn hlarge

/-- A record of one number. -/
def numberRow (n : Number) : Record := ⟨[(.text "Id", .number n)]⟩

theorem find?_numberRow (n : Number) : (numberRow n).find? "Id" = some (.number n) := by
  simp [numberRow, Record.find?, Mapping.findText?, Mapping.find?, Value.same]

/-- The least float above `-10 ^ 16`. -/
def lastPlain : Double := .finite true ⟨1076, by decide⟩ ⟨496400372629503, by decide⟩

theorem isPlain_lastPlain : lastPlain.IsPlain := by
  have hvalue : Double.rational true ⟨1076, by decide⟩ ⟨496400372629503, by decide⟩ =
      -9999999999999998 := by
    norm_num [Double.rational, Double.significand]
  refine ⟨by decide +kernel, .inr ?_⟩
  rw [hvalue]
  norm_num

/-- The least float above `-10 ^ 16` is the last one that documents write without an exponent: its
text ends in `.0`, which the field does not ask for. -/
theorem holds_contains_self_last_plain :
    (Value.number (.float lastPlain)).IsScalar ∧ idSchema.resolve? "Id" = some "Id" ∧
      (numberRow (.float lastPlain)).find? "Id" = some (.number (.float lastPlain)) ∧
      lastPlain.IsPlain ∧ ∃ d p, Descriptor.ofFields .standard idSchema
          [(.text ("Contains" ++ "Id"), .number (.float lastPlain))] = .ok [d] ∧
        compile idSchema [d] = .ok p ∧ p.holds (numberRow (.float lastPlain)) = .ok true := by
  have hscalar : (Value.number (.float lastPlain)).IsScalar := trivial
  obtain ⟨d, p, hbind, -, hcompile, -, hself, -⟩ :=
    holds_contains_self hscalar resolve?_id (find?_numberRow (.float lastPlain))
  exact ⟨hscalar, resolve?_id, find?_numberRow _, isPlain_lastPlain, d, p, hbind, hcompile,
    hself (.float _ isPlain_lastPlain)⟩

/-- The field that asks for a number does not select the record of that number. -/
def MissesItself (n : Number) : Prop :=
  ∃ d p,
    Descriptor.ofFields .standard idSchema [(.text ("Contains" ++ "Id"), .number n)] = .ok [d] ∧
    compile idSchema [d] = .ok p ∧ p.holds (numberRow n) = .ok false

theorem missesItself_of_not_occursIn {n : Number}
    (h : occursIn (FilterValue.ofNumber n).toText.toList n.toText.toList = false) :
    MissesItself n := by
  obtain ⟨d, p, hbind, -, hcompile, hrun⟩ := exists_run_contains resolve?_id (find?_numberRow n)
    (rfl : (Value.number n).isNull = false) rfl (FilterValue.kind_ofNumber_ne_list n)
  have hread : coerce "Id" (.number n) .text = .ok (some (.text n.toText)) := rfl
  refine ⟨d, p, hbind, hcompile, ?_⟩
  rw [hrun, Test.run, hread]
  exact congrArg Except.ok h

/-- Three numbers that are not found in their own texts: the greatest unsigned integer, which is
asked for as a float; the float `10 ^ 16`, which documents write with an exponent; and the float
`1 + 2 ^ -17`, half-way between two shortest decimals. -/
theorem exists_not_contains_self :
    MissesItself (.int 18446744073709551615 (by decide)) ∧
      MissesItself (.float (.finite false 1076 496400372629504)) ∧
      MissesItself (.float (.finite false 1023 34359738368)) := by
  refine ⟨?_, ?_, ?_⟩ <;> exact missesItself_of_not_occursIn (by decide +kernel)

end Predicate

end RecordQuery
