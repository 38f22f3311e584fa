import RecordQuery.Proofs.Number.WholePart

/-!
# The numeric order is the order of places on a line

`Number.compareNumeric` compares integers with integers, floats with floats, and each with the
other in its own way. All of these agree with one map onto a line: a number has a *place*, which is
its section (negative infinity, the finite numbers, infinity, NaN) and, for a finite number, its
value in units of `2 ^ -1074`. Numbers are compared by section, then by value.

* `Double.compare?_eq_some_iff`: floats are ordered unless one of them is NaN.
* `compareNumeric_eq_place`: the numeric order is the order of the places.
* `Std.TransCmp compareNumeric`: so it is a total preorder, across integers and floats and with NaN.
-/

namespace RecordQuery

namespace Double

theorem compare?_eq_none_iff {x y : Double} : x.compare? y = none ↔ x = .nan ∨ y = .nan := by
  rcases x with _ | _ | _ <;> rcases y with _ | _ | _ <;> simp [compare?]

/-- **Two floats are ordered unless one of them is NaN**, in the order that has NaN last. -/
theorem compare?_eq_some_iff {x y : Double} {o : Ordering} :
    x.compare? y = some o ↔ x ≠ .nan ∧ y ≠ .nan ∧ Number.compareFloats x y = o := by
  have hnone := compare?_eq_none_iff (x := x) (y := y)
  unfold Number.compareFloats
  cases hcompare : x.compare? y with
  | none =>
    simp only [hcompare, true_iff] at hnone
    simp only [reduceCtorEq, false_iff]
    rintro ⟨hx, hy, -⟩
    exact hnone.elim hx hy
  | some o' =>
    simp only [hcompare, reduceCtorEq, false_iff, not_or] at hnone
    simp [hnone.1, hnone.2]

/-- The section of the line that a float lies in, and its value there in units of `2 ^ -1074`. -/
def place : Double → Nat × Int
  | .infinite true => (0, 0)
  | .finite s e f => (1, (Double.finite s e f).units)
  | .infinite false => (2, 0)
  | .nan => (3, 0)

end Double

namespace Number

/-- The place of a number on the line; an integer lies among the finite floats. -/
def place : Number → Nat × Int
  | .int n _ => (1, n * Double.unitsPerOne)
  | .float x => x.place

/-- The order of places: by section, then by value. -/
def comparePlace (p q : Nat × Int) : Ordering := (compare p.1 q.1).then (compare p.2 q.2)

theorem comparePlace_swap (p q : Nat × Int) : (comparePlace p q).swap = comparePlace q p := by
  unfold comparePlace
  rw [Ordering.swap_then, ← Std.OrientedOrd.eq_swap, ← Std.OrientedOrd.eq_swap]

theorem compareFloats_eq_place (x y : Double) :
    compareFloats x y = comparePlace x.place y.place := by
  rcases x with _ | (_ | _) | ⟨s, e, f⟩ <;> rcases y with _ | (_ | _) | ⟨t, g, h⟩ <;> rfl

theorem compareInt_eq_place {n : Int} (hn : FitsWord n) (y : Double) :
    y.compareInt n = comparePlace (1, n * Double.unitsPerOne) y.place := by
  rcases y with _ | (_ | _) | ⟨s, e, f⟩
  · rfl
  · rfl
  · rfl
  · exact Double.compareInt_of_isFinite hn rfl

/-- **The numeric order is the order of the places**, whatever the two numbers are. -/
theorem compareNumeric_eq_place (x y : Number) :
    x.compareNumeric y = comparePlace x.place y.place := by
  cases x with
  | int a ha =>
    cases y with
    | int b hb =>
      show compare a b = compare (a * (Double.unitsPerOne : Int)) (b * Double.unitsPerOne)
      exact (Double.compare_units a b).symm
    | float y => exact compareInt_eq_place ha y
  | float x =>
    cases y with
    | int b hb =>
      show (x.compareInt b).swap = _
      rw [compareInt_eq_place hb, comparePlace_swap]
      rfl
    | float y => exact compareFloats_eq_place x y

/-- The numeric order is a total preorder. -/
instance : Std.TransCmp compareNumeric := by
  have h : compareNumeric =
      compareLex (compareOn fun x => x.place.1) (compareOn fun x => x.place.2) := by
    funext x y
    exact compareNumeric_eq_place x y
  rw [h]
  infer_instance

end Number

end RecordQuery
