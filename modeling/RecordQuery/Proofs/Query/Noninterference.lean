import RecordQuery.Proofs.Query.Selection

/-!
# What a query reads of its candidates

A query looks at the properties that its fragments name and at the one that it sorts by, and at
nothing else of a candidate: neither other properties nor the order of the keys. And it does not
tell a property that is missing from one that is null. So two lists of candidates that agree there,
one by one, give the same outcome, position by position.

To say so a run is split in two: the positions that are chosen are computed from the records alone,
and the entities are put in afterwards.

* `Fragment.holds_eq_run_value`, `propertyOrder_getD`: a missing property is taken as null.
* `select_map`: a run chooses positions by the records there.
* `choosePositions_congr`: and these by the values of the named properties.
* `paginate_of_agree`: two runs over agreeing candidates.
-/

namespace RecordQuery

/-! ## Missing and null -/

/-- The value of a property, null if it is missing. -/
def Record.value (r : Record) (property : String) : Value := (r.find? property).getD .null

/-- Null writes no date. -/
theorem dateOrder?_null (relation : Relation) (value : FilterValue) :
    dateOrder? relation value .null = none := by
  unfold dateOrder?
  split
  · rfl
  · rename_i s _
    cases DateTime.ofText? s <;> rfl
  · rfl

/-- No test is true of null, and none fails on it. -/
theorem Test.run_null (property : String) (t : Test) : t.run property .null = .ok false := by
  match t with
  | .compare relation value =>
    rw [run, dateOrder?_null]
    rfl
  | .contains _ => rfl
  | .among [] => rfl
  | .among (_ :: _) => rfl

/-- **A fragment reads the value of its property**, and takes a missing one as null. -/
theorem Fragment.holds_eq_run_value (f : Fragment) (r : Record) :
    f.holds r = f.test.run f.property (r.value f.property) := by
  unfold Fragment.holds Record.value
  cases r.find? f.property with
  | none => exact (f.test.run_null f.property).symm
  | some raw => rfl

/-- **The order of property values** takes a missing one as null. -/
theorem propertyOrder_getD (a b : Option Value) :
    propertyOrder (some (a.getD .null)) (some (b.getD .null)) = propertyOrder a b := by
  unfold propertyOrder
  rcases a with _ | v
  · rcases b with _ | w
    · rfl
    · cases w <;> rfl
  · rcases b with _ | w
    · cases v <;> rfl
    · rfl

theorem SortKey.compare_eq_value (key : SortKey) (r s : Record) :
    key.compare r s =
      if key.descending then
        (propertyOrder (some (r.value key.property)) (some (s.value key.property))).swap
      else propertyOrder (some (r.value key.property)) (some (s.value key.property)) := by
  rw [SortKey.compare, Record.value, Record.value, propertyOrder_getD]

/-! ## Positions -/

variable {ι : Type}

/-- The positions whose records satisfy a predicate, up to the first failure. -/
def Predicate.keep (p : Predicate) (record : ι → Record) : List ι → Except FilterError (List ι)
  | [] => .ok []
  | i :: is =>
    match p.holds (record i) with
    | .error e => .error e
    | .ok true => (keep p record is).map (i :: ·)
    | .ok false => keep p record is

/-- Positions in the stable order of a sort key of the records there. -/
def SortKey.arrangePositions (key? : Option SortKey) (record : ι → Record) (is : List ι) : List ι :=
  match key? with
  | none => is
  | some key => is.mergeSort fun i j => key.compare (record i) (record j) != .gt

/-- The positions that are chosen, in the order that is asked for. -/
def choosePositions (p : Predicate) (key? : Option SortKey) (record : ι → Record) (is : List ι) :
    Except FilterError (List ι) :=
  (p.keep record is).map (SortKey.arrangePositions key? record)

theorem Predicate.keep_sublist {p : Predicate} {record : ι → Record} : ∀ {is kept : List ι},
    p.keep record is = .ok kept → kept.Sublist is
  | [], kept, h => by
    obtain rfl := Except.ok.inj h
    exact List.Sublist.refl []
  | i :: is, kept, h => by
    unfold keep at h
    split at h
    · cases h
    · obtain ⟨rest, hrest, rfl⟩ := map_eq_ok_iff.mp h
      exact (keep_sublist hrest).cons_cons i
    · exact (keep_sublist h).cons i

theorem SortKey.arrangePositions_perm (key? : Option SortKey) (record : ι → Record) (is : List ι) :
    (arrangePositions key? record is).Perm is := by
  cases key? with
  | none => exact List.Perm.refl is
  | some key => exact List.mergeSort_perm is _

/-- No position is chosen twice. -/
theorem nodup_of_choosePositions {p : Predicate} {key? : Option SortKey} {record : ι → Record}
    {is chosen : List ι} (his : is.Nodup) (h : choosePositions p key? record is = .ok chosen) :
    chosen.Nodup := by
  obtain ⟨kept, hkept, rfl⟩ := map_eq_ok_iff.mp h
  exact (SortKey.arrangePositions_perm key? record kept).nodup_iff.mpr
    ((Predicate.keep_sublist hkept).nodup his)

/-! ## The named properties decide -/

section Congruence

variable {p : Predicate} {r s : Record}

/-- A predicate evaluates alike on records that agree on the properties of its fragments. -/
theorem Predicate.holds_congr (h : ∀ f ∈ p.fragments, r.value f.property = s.value f.property) :
    p.holds r = p.holds s := by
  unfold Predicate.holds
  generalize p.fragments = fs at h
  induction fs with
  | nil => rfl
  | cons f fs ih =>
    obtain ⟨hf, hfs⟩ := List.forall_mem_cons.mp h
    rw [holdAll, holdAll, f.holds_eq_run_value, f.holds_eq_run_value, hf, ih hfs]

variable {key? : Option SortKey} {left right : ι → Record}

/-- **The positions that are chosen** depend on the values of the named properties alone. -/
theorem choosePositions_congr
    (hfragments : ∀ i, ∀ f ∈ p.fragments, (left i).value f.property = (right i).value f.property)
    (hkey : ∀ i, ∀ key ∈ key?, (left i).value key.property = (right i).value key.property)
    (is : List ι) : choosePositions p key? left is = choosePositions p key? right is := by
  have hholds : ∀ i, p.holds (left i) = p.holds (right i) :=
    fun i => Predicate.holds_congr (hfragments i)
  have hkeep : p.keep left is = p.keep right is := by
    induction is with
    | nil => rfl
    | cons i is ih => rw [Predicate.keep, Predicate.keep, hholds, ih]
  have harrange : SortKey.arrangePositions key? left = SortKey.arrangePositions key? right := by
    cases key? with
    | none => rfl
    | some key =>
      unfold SortKey.arrangePositions
      simp only [SortKey.compare_eq_value, hkey _ key rfl]
  rw [choosePositions, choosePositions, hkeep, harrange]

end Congruence

/-! ## Runs choose positions -/

section Runs

variable {α : Type} {entity : ι → α} {record : ι → Record}

/-- Sorting entities with their records sorts their positions. -/
theorem SortKey.sort_map (key : SortKey) (is : List ι) :
    key.sort (is.map fun i => (entity i, record i)) =
      (arrangePositions (some key) record is).map fun i => (entity i, record i) := by
  unfold sort arrangePositions
  rw [List.map_mergeSort]
  exact fun _ _ _ _ => rfl

variable [Entity α]

/-- **The candidates that a run collects** are those at the positions that are kept. -/
theorem matching_map (hrecord : ∀ i, Record.ofEntity (entity i) = .ok (record i)) (p : Predicate)
    (is : List ι) :
    matching p (is.map entity) = (p.keep record is).map (List.map fun i => (entity i, record i)) := by
  induction is with
  | nil => rfl
  | cons i is ih =>
    rw [List.map_cons, matching, hrecord, Predicate.keep]
    dsimp only
    cases p.holds (record i) with
    | error e => rfl
    | ok b =>
      cases b with
      | false => exact ih
      | true =>
        dsimp only
        rw [ih]
        cases p.keep record is <;> rfl

theorem Predicate.keep_of_isAlways {p : Predicate} (h : p.isAlways = true) (record : ι → Record)
    (is : List ι) : p.keep record is = .ok is := by
  induction is with
  | nil => rfl
  | cons i is ih =>
    have hholds : p.holds (record i) = .ok true := by
      rw [holds, List.isEmpty_iff.mp h, holdAll]
    rw [keep, hholds, ih]
    rfl

/-- **A run chooses the candidates at the positions** that the records decide on. -/
theorem select_map (hrecord : ∀ i, Record.ofEntity (entity i) = .ok (record i)) (p : Predicate)
    (key? : Option SortKey) (is : List ι) :
    select p key? (is.map entity) = (choosePositions p key? record is).map (List.map entity) := by
  have hfst : ∀ kept : List ι,
      (kept.map fun i => (entity i, record i)).map Prod.fst = kept.map entity :=
    fun kept => List.map_map
  unfold select choosePositions
  cases key? with
  | some key =>
    dsimp only
    rw [matching_map hrecord]
    cases p.keep record is with
    | error e => rfl
    | ok kept =>
      show Except.ok ((key.sort (kept.map _)).map Prod.fst) = _
      rw [key.sort_map, hfst]
      rfl
  | none =>
    dsimp only
    split_ifs with h
    · rw [Predicate.keep_of_isAlways h]
      rfl
    · rw [matching_map hrecord]
      cases p.keep record is with
      | error e => rfl
      | ok kept => exact congrArg Except.ok (hfst kept)

end Runs

/-! ## Pages -/

/-- A page of other things with the same numbers. -/
def ResultPage.map {α β : Type} (f : α → β) (page : ResultPage α) : ResultPage β :=
  ⟨page.items.map f, page.page, page.pageSize, page.totalCount⟩

theorem PageRequest.apply_map {α β : Type} (request : PageRequest) (f : α → β) (items : List α) :
    request.apply (items.map f) = (request.apply items).map f := by
  unfold apply
  split <;> simp [ResultPage.map, cut]

/-- A page holds some of the items, in their order. -/
theorem PageRequest.apply_sublist {α : Type} (request : PageRequest) (items : List α) :
    (request.apply items).items.Sublist items := by
  unfold apply
  split
  · exact (List.take_sublist _ _).trans (List.drop_sublist _ _)
  · exact List.Sublist.refl items

/-- The positions on a page, chosen by the records there. -/
def paginatePositions (p : Predicate) (schema : Schema) (sort? : Option SortSpec)
    (request : PageRequest) (record : ι → Record) (is : List ι) :
    Except FilterError (ResultPage ι) := do
  request.validate
  let key? ← SortKey.resolveAll schema sort?
  let found ← choosePositions p key? record is
  return request.apply found

variable {p : Predicate} {schema : Schema} {sort? : Option SortSpec} {request : PageRequest}

/-- **A page holds the candidates at the positions** that the records decide on. -/
theorem paginate_map {α : Type} [Entity α] {entity : ι → α} {record : ι → Record}
    (hrecord : ∀ i, Record.ofEntity (entity i) = .ok (record i)) (is : List ι) :
    paginate (is.map entity) p schema sort? request =
      (paginatePositions p schema sort? request record is).map (ResultPage.map entity) := by
  unfold paginate paginatePositions
  cases request.validate with
  | error e => rfl
  | ok u =>
    cases SortKey.resolveAll schema sort? with
    | error e => rfl
    | ok key? =>
      show (select p key? (is.map entity) >>= fun found => .ok (request.apply found)) = _
      rw [select_map hrecord]
      cases hchosen : choosePositions p key? record is with
      | error e => simp [bind, Except.bind, Except.map, hchosen]
      | ok found =>
        simp [bind, Except.bind, Except.map, pure, Except.pure, hchosen, request.apply_map]

theorem nodup_of_paginatePositions {record : ι → Record} {is : List ι} {page : ResultPage ι}
    (his : is.Nodup) (h : paginatePositions p schema sort? request record is = .ok page) :
    page.items.Nodup := by
  obtain ⟨-, -, h⟩ := bind_eq_ok_iff.mp h
  obtain ⟨key?, -, h⟩ := bind_eq_ok_iff.mp h
  obtain ⟨found, hfound, h⟩ := bind_eq_ok_iff.mp h
  obtain rfl := Except.ok.inj h
  exact (request.apply_sublist found).nodup (nodup_of_choosePositions his hfound)

/-! ## Agreeing candidates -/

/-- The properties that a query names: those of its fragments, and the one that its sort
specification resolves to. -/
def namedProperties (p : Predicate) (schema : Schema) (sort? : Option SortSpec) : List String :=
  p.fragments.map Fragment.property ++
    (sort?.bind fun spec => schema.resolve? spec.property).toList

/-- Two entities are mappings that agree on some properties, a missing one being taken as null. -/
def Agree {α β : Type} [Entity α] [Entity β] (names : List String) (x : α) (y : β) : Prop :=
  ∃ r s, Record.ofEntity x = .ok r ∧ Record.ofEntity y = .ok s ∧
    ∀ name ∈ names, r.value name = s.value name

/-- The positions on a page depend on the values of the named properties alone. -/
theorem paginatePositions_congr {left right : ι → Record}
    (h : ∀ i, ∀ name ∈ namedProperties p schema sort?, (left i).value name = (right i).value name)
    (is : List ι) :
    paginatePositions p schema sort? request left is =
      paginatePositions p schema sort? request right is := by
  unfold paginatePositions
  cases hkey : SortKey.resolveAll schema sort? with
  | error e => rfl
  | ok key? =>
    have hchoose : choosePositions p key? left is = choosePositions p key? right is := by
      refine choosePositions_congr (fun i f hf => h i _ ?_) (fun i key hmem => h i _ ?_) is
      · exact List.mem_append_left _ (List.mem_map_of_mem hf)
      · obtain rfl := Option.mem_def.mp hmem
        cases sort? with
        | none => cases hkey
        | some spec =>
          obtain ⟨property, hproperty, hsome⟩ := SortKey.resolveAll_some_eq_ok hkey
          obtain rfl := Option.some.inj hsome
          refine List.mem_append_right _ (Option.mem_toList.mpr ?_)
          exact hproperty
    show (request.validate >>= fun _ => choosePositions p key? left is >>= fun found =>
      .ok (request.apply found)) = _
    rw [hchoose]
    rfl

/-- **Two runs over candidates that agree on the named properties** have the same outcome. Both fail
with one failure, or both succeed with the same numbers and the candidates at the same positions in
the same order, none of them twice. -/
theorem paginate_of_agree {α β : Type} [Entity α] [Entity β] {xs : List α} {ys : List β}
    (h : List.Forall₂ (Agree (namedProperties p schema sort?)) xs ys) (request : PageRequest) :
    (∃ e, paginate xs p schema sort? request = .error e ∧
      paginate ys p schema sort? request = .error e) ∨
    ∃ (positions : List (Fin xs.length)) (page size : Int) (total : Nat), positions.Nodup ∧
      paginate xs p schema sort? request = .ok ⟨positions.map xs.get, page, size, total⟩ ∧
      paginate ys p schema sort? request =
        .ok ⟨positions.map fun i => ys.get (i.cast h.length_eq), page, size, total⟩ := by
  have hagree : ∀ i : Fin xs.length,
      Agree (namedProperties p schema sort?) (xs.get i) (ys.get (i.cast h.length_eq)) :=
    fun i => (List.forall₂_iff_get.mp h).2 i i.isLt (i.cast h.length_eq).isLt
  choose left right hleft hright hvalue using hagree
  have hys : (List.finRange xs.length).map (fun i => ys.get (i.cast h.length_eq)) = ys :=
    List.ext_get (by simp [h.length_eq]) (by simp)
  have hrunx : paginate xs p schema sort? request =
      (paginatePositions p schema sort? request left (List.finRange xs.length)).map
        (ResultPage.map xs.get) := by
    rw [← paginate_map hleft, List.map_get_finRange]
  have hruny : paginate ys p schema sort? request =
      (paginatePositions p schema sort? request left (List.finRange xs.length)).map
        (ResultPage.map fun i => ys.get (i.cast h.length_eq)) := by
    rw [paginatePositions_congr hvalue, ← paginate_map hright, hys]
  cases hrun : paginatePositions p schema sort? request left (List.finRange xs.length) with
  | error e =>
    rw [hrun] at hrunx hruny
    exact .inl ⟨e, hrunx, hruny⟩
  | ok page =>
    rw [hrun] at hrunx hruny
    exact .inr ⟨page.items, page.page, page.pageSize, page.totalCount,
      nodup_of_paginatePositions (List.nodup_finRange _) hrun, hrunx, hruny⟩

/-- Two records, one of them with a null. -/
def nullRows : List Value :=
  [.mapping [(.text "Id", .ofInt 4), (.text "Group", .null)], sampleRow 3 "b"]

/-- The same records without the null, and with one more key and in another order of the keys. -/
def reorderedRows : List Value :=
  [.mapping [(.text "Id", .ofInt 4)],
    .mapping [(.text "Note", .text "n"), (.text "Group", .text "b"), (.text "Id", .ofInt 3)]]

/-- The record without a group stands last in descending order, as the one with a null does. -/
theorem paginate_of_agree_reordered :
    List.Forall₂ (Agree (namedProperties samplePredicate sampleSchema (some ⟨"group", true⟩)))
        nullRows reorderedRows ∧
      ∃ (positions : List (Fin nullRows.length)) (page size : Int) (total : Nat), positions.Nodup ∧
        paginate nullRows samplePredicate sampleSchema (some ⟨"group", true⟩) .unpaged =
          .ok ⟨positions.map nullRows.get, page, size, total⟩ ∧
        paginate reorderedRows samplePredicate sampleSchema (some ⟨"group", true⟩) .unpaged =
          .ok ⟨positions.map fun i => reorderedRows.get (i.cast rfl), page, size, total⟩ := by
  have hnames : namedProperties samplePredicate sampleSchema (some ⟨"group", true⟩) =
      ["Id", "Group"] := by cbv
  have hagree : List.Forall₂
      (Agree (namedProperties samplePredicate sampleSchema (some ⟨"group", true⟩)))
      nullRows reorderedRows := by
    rw [hnames]
    refine .cons ⟨_, _, rfl, rfl, ?_⟩ (.cons ⟨_, _, rfl, rfl, ?_⟩ .nil)
    · exact List.forall_mem_cons.mpr ⟨by cbv, List.forall_mem_singleton.mpr (by cbv)⟩
    · exact List.forall_mem_cons.mpr ⟨by cbv, List.forall_mem_singleton.mpr (by cbv)⟩
  refine ⟨hagree, ?_⟩
  have hrun : paginate nullRows samplePredicate sampleSchema (some ⟨"group", true⟩) .unpaged =
      .ok ⟨nullRows.reverse, 1, 50, 2⟩ := by cbv
  rcases paginate_of_agree hagree .unpaged with ⟨e, he, -⟩ | hsame
  · cases hrun.symm.trans he
  · exact hsame

end RecordQuery
