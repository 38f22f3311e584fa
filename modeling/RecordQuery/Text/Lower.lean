import RecordQuery.Text.CaseTable

/-!
# Lower-casing

The full lower-case mapping of a text. Three things set it apart from a map over characters: a
capital I with a dot becomes two characters, a capital sigma becomes a final sigma at the end of
a word, and the end of a word is found by skipping case-ignorable characters on both sides.

`sameAscii` compares texts up to the case of ASCII letters alone.
-/

namespace RecordQuery.Text

/-- The simple lower-case form of a character: its own, or the one its run gives. -/
def lowerSimple (c : Char) : Char :=
  match lowerRuns.find? (·.holds c.toNat) with
  | some r => Char.ofNat (c.toNat + r.offset).toNat
  | none => c

/-- A character with the Cased property. -/
def isCased (c : Char) : Bool := inRanges casedRanges c.toNat

/-- A character with the Case_Ignorable property. -/
def isCaseIgnorable (c : Char) : Bool := inRanges caseIgnorableRanges c.toNat

/-- Past its case-ignorable characters, the text goes on with a cased one. -/
def leadsToCased (s : List Char) : Bool :=
  match s.dropWhile isCaseIgnorable with
  | c :: _ => isCased c
  | [] => false

/-- The lower-case form of `c` between the text before it, nearest character first, and the text
after it. -/
def lowerAt (before : List Char) (c : Char) (after : List Char) : List Char :=
  if c = 'Σ' then [if leadsToCased before && !leadsToCased after then 'ς' else 'σ']
  else if c = 'İ' then ['i', '\u0307']
  else [lowerSimple c]

/-- Lower-cases a text whose reversed left context is given. -/
def lowerFrom (before : List Char) : List Char → List Char
  | [] => []
  | c :: cs => lowerAt before c cs ++ lowerFrom (c :: before) cs

/-- The full lower-case form of a text. -/
def lower (s : String) : String := String.ofList (lowerFrom [] s.toList)

/-! ## ASCII -/

/-- The lower-case form of an ASCII capital; every other character stays. -/
def asciiLower (c : Char) : Char :=
  if 'A' ≤ c ∧ c ≤ 'Z' then Char.ofNat (c.toNat + 32) else c

/-- Equality of texts up to the case of ASCII letters. -/
def sameAscii (a b : String) : Bool := a.toList.map asciiLower == b.toList.map asciiLower

theorem sameAscii_iff {a b : String} :
    sameAscii a b = true ↔ a.toList.map asciiLower = b.toList.map asciiLower := by
  simp [sameAscii]

theorem sameAscii_refl (a : String) : sameAscii a a = true := by simp [sameAscii]

theorem sameAscii_comm (a b : String) : sameAscii a b = sameAscii b a := by
  simp only [sameAscii, Bool.beq_comm]

end RecordQuery.Text
