import RecordQuery.Proofs.Filter.Contribution
import RecordQuery.Proofs.Text.Trimming

/-!
# Lists in texts

A membership field may have its list in one text, with commas between the items. Blanks around an
item do not matter, and neither do empty or blank pieces between commas. So each list of trimmed
texts without commas has many spellings as one text, all of which are read as the list; and every
text is a spelling of one such list, so that no text is refused.

* `Test.Joins`: the spellings of a list.
* `Test.commaParts_eq_iff`: a text is read as the list that it spells.
* `Predicate.ofFields_commaText`: what a field with such a text asks for.
-/

namespace RecordQuery

namespace Test

/-! ## Spellings of a list -/

/-- The text can stand between commas: it is not empty, has no comma in it and no blanks around. -/
structure IsPart (s : String) : Prop where
  ne_empty : s ≠ ""
  comma_not_mem : ',' ∉ s.toList
  trimmed : Text.trim s.toList = s.toList

/-- Each part stands in a piece of its own, between blanks and in its place, and the other pieces
are blank or empty. -/
inductive IsPadded : List String → List (List Char) → Prop
  | nil : IsPadded [] []
  | blank {ts : List String} {u : List Char} {pieces : List (List Char)}
      (hu : Text.IsBlankRun u) (rest : IsPadded ts pieces) : IsPadded ts (u :: pieces)
  | part {t : String} {ts : List String} {u w : List Char} {pieces : List (List Char)}
      (hu : Text.IsBlankRun u) (hw : Text.IsBlankRun w) (rest : IsPadded ts pieces) :
      IsPadded (t :: ts) ((u ++ t.toList ++ w) :: pieces)

/-- The text joins the parts by commas, with any blanks around them and any empty or blank pieces
between them. -/
def Joins (ts : List String) (s : String) : Prop :=
  ∃ pieces, IsPadded ts pieces ∧ s.toList = [','].intercalate pieces

/-! ## Reading a text -/

/-- The parts that stand in pieces. -/
def partsOf (pieces : List (List Char)) : List String :=
  ((pieces.map Text.trim).filter fun part => !part.isEmpty).map String.ofList

theorem partsOf_cons_of_blank {u : List Char} (hu : Text.IsBlankRun u)
    (pieces : List (List Char)) : partsOf (u :: pieces) = partsOf pieces := by
  simp [partsOf, Text.trim_eq_nil_iff.mpr hu]

theorem partsOf_cons_of_part {piece : List Char} (hpiece : Text.trim piece ≠ [])
    (pieces : List (List Char)) :
    partsOf (piece :: pieces) = String.ofList (Text.trim piece) :: partsOf pieces := by
  simp [partsOf, hpiece]

/-- **Padding is undone**: the parts that stand in pieces are those that were put there. -/
theorem IsPadded.partsOf_eq {ts : List String} {pieces : List (List Char)}
    (h : IsPadded ts pieces) (hts : ∀ t ∈ ts, IsPart t) : partsOf pieces = ts := by
  induction h with
  | nil => rfl
  | blank hu _ ih => rw [partsOf_cons_of_blank hu, ih hts]
  | @part t ts u w pieces hu hw _ ih =>
    obtain ⟨ht, hts⟩ := List.forall_mem_cons.mp hts
    have htrim : Text.trim (u ++ t.toList ++ w) = t.toList :=
      (Text.trim_append_append hu _ hw).trans ht.trimmed
    have hne : Text.trim (u ++ t.toList ++ w) ≠ [] := by
      rw [htrim]
      exact fun hnil => ht.ne_empty (String.toList_eq_nil_iff.mp hnil)
    rw [partsOf_cons_of_part hne, htrim, String.ofList_toList, ih hts]

/-- **Any pieces are a padding** of the parts that stand in them. -/
theorem isPadded_partsOf (pieces : List (List Char)) : IsPadded (partsOf pieces) pieces := by
  induction pieces with
  | nil => exact .nil
  | cons piece pieces ih =>
    by_cases hblank : Text.IsBlankRun piece
    · rw [partsOf_cons_of_blank hblank]
      exact .blank hblank ih
    · obtain ⟨u, w, hu, hw, hpiece⟩ := Text.exists_eq_append_trim piece
      rw [partsOf_cons_of_part (mt Text.trim_eq_nil_iff.mp hblank)]
      have hpadded := IsPadded.part (t := String.ofList (Text.trim piece)) hu hw ih
      rwa [String.toList_ofList, ← hpiece] at hpadded

/-- Padding has no comma in it. -/
theorem IsPadded.comma_not_mem {ts : List String} {pieces : List (List Char)}
    (h : IsPadded ts pieces) (hts : ∀ t ∈ ts, IsPart t) : ∀ piece ∈ pieces, ',' ∉ piece := by
  have hblank : ∀ {u}, Text.IsBlankRun u → ',' ∉ u :=
    fun hu hmem => absurd (hu ',' hmem) (by decide)
  induction h with
  | nil => simp
  | blank hu _ ih => exact List.forall_mem_cons.mpr ⟨hblank hu, ih hts⟩
  | part hu hw _ ih =>
    obtain ⟨ht, hts⟩ := List.forall_mem_cons.mp hts
    refine List.forall_mem_cons.mpr ⟨?_, ih hts⟩
    simp only [List.mem_append, not_or]
    exact ⟨⟨hblank hu, ht.comma_not_mem⟩, hblank hw⟩

/-- **A spelling of a list is read as the list.** -/
theorem commaParts_of_joins {ts : List String} {s : String} (hts : ∀ t ∈ ts, IsPart t)
    (h : Joins ts s) : commaParts s = ts := by
  obtain ⟨pieces, hpadded, hs⟩ := h
  show partsOf (Text.splitWhere (· = ',') s.toList) = ts
  cases pieces with
  | nil =>
    -- no pieces at all are joined as one empty piece is
    rw [hs, ← hpadded.partsOf_eq hts]
    rfl
  | cons piece pieces =>
    rw [hs, Text.splitWhere_intercalate (List.cons_ne_nil _ _) (hpadded.comma_not_mem hts),
      hpadded.partsOf_eq hts]

/-- **Any text is a spelling** of the list that it is read as. -/
theorem joins_commaParts (s : String) : Joins (commaParts s) s :=
  ⟨_, isPadded_partsOf _, (Text.intercalate_splitWhere ',' s.toList).symm⟩

/-- What a text is read as can stand between commas. -/
theorem isPart_of_mem_commaParts {s t : String} (h : t ∈ commaParts s) : IsPart t := by
  obtain ⟨part, hpart, rfl⟩ := List.mem_map.mp h
  obtain ⟨hmem, hne⟩ := List.mem_filter.mp hpart
  obtain ⟨piece, hpiece, rfl⟩ := List.mem_map.mp hmem
  refine ⟨fun hempty => ?_, fun hcomma => ?_, ?_⟩
  · rw [String.ofList_eq_empty_iff.mp hempty] at hne
    cases hne
  · rw [String.toList_ofList] at hcomma
    have hnot := Text.not_of_mem_splitWhere hpiece ',' (Text.mem_of_mem_trim hcomma)
    simp at hnot
  · rw [String.toList_ofList, Text.trim_trim]

/-- **A text is read as the list that it spells**, and as no other one. -/
theorem commaParts_eq_iff {s : String} {ts : List String} :
    commaParts s = ts ↔ (∀ t ∈ ts, IsPart t) ∧ Joins ts s := by
  constructor
  · rintro rfl
    exact ⟨fun t => isPart_of_mem_commaParts, joins_commaParts s⟩
  · rintro ⟨hts, hjoins⟩
    exact commaParts_of_joins hts hjoins

/-! ## Tests of texts -/

/-- The texts of a list are what is looked for. -/
theorem membership_of_texts {d : Descriptor} {ts : List String}
    (h : members d.value = ts.map .text) : membership d = .ok (.among (ts.map .text)) := by
  have hkind : ∀ v ∈ ts.map FilterValue.text, v.kind = .text := by
    simp [FilterValue.kind]
  have hfloat : ¬ ∃ v ∈ ts.map FilterValue.text, v.kind = .float := by
    rintro ⟨v, hv, hvfloat⟩
    cases (hkind v hv).symm.trans hvfloat
  rw [membership_eq_ok_iff, h, promote_of_no_float hfloat, oddKind?_eq_none_iff]
  exact ⟨fun v hv w hw => (hkind v hv).trans (hkind w hw).symm, rfl⟩

end Test

/-- A list of texts is read as the list of the same texts. -/
theorem FilterValue.ofItems_texts (field : String) (ts : List String) :
    ofItems field (ts.map .text) = .ok (ts.map .text) := by
  induction ts with
  | nil => rfl
  | cons t ts ih =>
    rw [List.map_cons, ofItems_cons_of_scalar rfl ValueKind.noConfusion, ih]
    rfl

/-! ## Fields -/

namespace Predicate

variable {table : PrefixTable} {schema : Schema} {field name property : String}

/-- A membership field whose value gives texts asks for these texts. -/
theorem ofFields_of_texts (hsplit : Descriptor.split table field = (some .among, name))
    (hproperty : schema.resolve? name = some property) {raw : Value} {value : FilterValue}
    {ts : List String} (hnull : raw.isNull = false)
    (hvalue : FilterValue.ofValue field raw = .ok (some value))
    (hmembers : Test.members value = ts.map .text) :
    ofFields table schema [(.text field, raw)] = .ok ⟨[⟨property, .among (ts.map .text)⟩]⟩ := by
  have hentry := Descriptor.ofEntry_of_split hsplit hnull hproperty hvalue
  have htest : Test.ofDescriptor ⟨field, some .among, property, .membership, value⟩ =
      .ok (.among (ts.map .text)) := Test.membership_of_texts hmembers
  exact ofFields_cons_eq_ok_iff.mpr
    ⟨_, _, Fragment.ofEntry_eq_some hentry htest, ofFields_nil, rfl⟩

/-- **A text asks for the list that it spells.** A membership field with a list of texts asks for
these texts. If they can stand between commas, a field with any spelling of the list compiles to the
same predicate. And any text at all is a spelling of such a list and compiles to its predicate. -/
theorem ofFields_commaText (hsplit : Descriptor.split table field = (some .among, name))
    (hproperty : schema.resolve? name = some property) :
    (∀ ts : List String,
      ofFields table schema [(.text field, .sequence (ts.map .text))] =
        .ok ⟨[⟨property, .among (ts.map .text)⟩]⟩) ∧
    (∀ ts s, (∀ t ∈ ts, Test.IsPart t) → Test.Joins ts s →
      ofFields table schema [(.text field, .text s)] =
        ofFields table schema [(.text field, .sequence (ts.map .text))]) ∧
    ∀ s, ∃ ts, (∀ t ∈ ts, Test.IsPart t) ∧ Test.Joins ts s ∧
      ofFields table schema [(.text field, .text s)] =
        .ok ⟨[⟨property, .among (ts.map .text)⟩]⟩ := by
  have hlist : ∀ ts : List String,
      ofFields table schema [(.text field, .sequence (ts.map .text))] =
        .ok ⟨[⟨property, .among (ts.map .text)⟩]⟩ := by
    intro ts
    have hvalue : FilterValue.ofValue field (.sequence (ts.map .text)) =
        .ok (some (.list (ts.map .text))) := by
      rw [FilterValue.ofValue, FilterValue.ofItems_texts]
      rfl
    exact ofFields_of_texts hsplit hproperty rfl hvalue rfl
  have htext : ∀ s, ofFields table schema [(.text field, .text s)] =
      .ok ⟨[⟨property, .among ((Test.commaParts s).map .text)⟩]⟩ :=
    fun s => ofFields_of_texts hsplit hproperty rfl rfl rfl
  refine ⟨hlist, fun ts s hts hjoins => ?_, fun s => ?_⟩
  · rw [htext, hlist, Test.commaParts_eq_iff.mpr ⟨hts, hjoins⟩]
  · obtain ⟨hparts, hjoins⟩ := Test.commaParts_eq_iff.mp (rfl : Test.commaParts s = _)
    exact ⟨_, hparts, hjoins, htext s⟩

/-- The property that the field below asks for. -/
def regionSchema : Schema := ⟨"Site", ["Region"]⟩

theorem isPart_regions : ∀ t ∈ ["north", "far south"], Test.IsPart t := by
  intro t ht
  rcases List.mem_pair.mp ht with rfl | rfl
  · exact ⟨by decide, by decide, by decide⟩
  · exact ⟨by decide, by decide, by decide⟩

/-- An empty piece between two commas, a wide blank, a tab and a blank piece at the end. -/
theorem joins_regions : Test.Joins ["north", "far south"] " north,,\u3000far south\t, " :=
  ⟨[[' '] ++ "north".toList ++ [], [], ['\u3000'] ++ "far south".toList ++ ['\t'], [' ']],
    .part (by decide) (by decide) (.blank (by decide)
      (.part (by decide) (by decide) (.blank (by decide) .nil))), by decide⟩

/-- The text asks for the two names. -/
theorem ofFields_commaText_padded :
    Descriptor.split .standard "ListRegion" = (some .among, "Region") ∧
      regionSchema.resolve? "Region" = some "Region" ∧
      ofFields .standard regionSchema
          [(.text "ListRegion", .text " north,,\u3000far south\t, ")] =
        .ok ⟨[⟨"Region", .among (["north", "far south"].map .text)⟩]⟩ := by
  have hsplit : Descriptor.split .standard "ListRegion" = (some .among, "Region") := by cbv
  have hproperty : regionSchema.resolve? "Region" = some "Region" := by cbv
  obtain ⟨hlist, hjoins, -⟩ := ofFields_commaText hsplit hproperty
  exact ⟨hsplit, hproperty, (hjoins _ _ isPart_regions joins_regions).trans (hlist _)⟩

end Predicate

end RecordQuery
