import RecordQuery.Proofs.Filter.Document

/-!
# Paging keys in any order

The keys of a document differ from one another, but two of them may spell one paging key, and then
their order matters. Where no paging key is spelled twice, two paging entries can be taken in the
one way or the other: even the two keys of the sort text, since the alias gives way to what was
found before it and is replaced by what is found after it. What is read for paging is then the value
of each key, wherever it stands, and the value of an alias that loses is never read.

* `PagingEntries.add_comm`: entries of two paging keys are taken in in either order.
* `PagingEntries.addAll_eq`: what is found once all entries are taken in.
* `DocumentFilter.ofMapping_perm`: a document and a permutation of it.
-/

namespace RecordQuery

/-- The keys are different from one another, whichever of two is compared with the other. -/
def Mapping.HasDistinctKeys (m : Mapping) : Prop :=
  m.keys.Pairwise fun a b => a.same b = false ∧ b.same a = false

theorem Mapping.HasDistinctKeys.perm {m n : Mapping} (h : m.HasDistinctKeys) (hperm : m.Perm n) :
    n.HasDistinctKeys :=
  List.Pairwise.perm h (hperm.map Prod.fst) fun hab => hab.symm

namespace PagingKey

/-- The key is a text that spells the paging key, up to the case of ASCII letters. -/
def IsSpelledBy (k : PagingKey) (key : Value) : Prop :=
  ∃ name, key.asText? = some name ∧ Text.sameAscii k.spelling name = true

/-- **A key spells one paging key at most**, and is taken for that one. -/
theorem isSpelledBy_iff {k : PagingKey} {key : Value} : k.IsSpelledBy key ↔ ofKey? key = some k := by
  constructor
  · rintro ⟨name, hname, hsame⟩
    have hspelled : (fun p : PagingKey => Text.sameAscii p.spelling name) =
        fun p => Text.sameAscii p.spelling k.spelling := by
      funext p
      rw [Bool.eq_iff_iff, Text.sameAscii_iff, Text.sameAscii_iff, Text.sameAscii_iff.mp hsame]
    rw [← ofKey?_spelling k, ofKey?, ofKey?, hname]
    show all.find? (fun p => Text.sameAscii p.spelling name) =
      all.find? fun p => Text.sameAscii p.spelling k.spelling
    rw [hspelled]
  · intro h
    obtain ⟨name, hname, hfind⟩ := Option.bind_eq_some_iff.mp h
    have hsame := List.find?_some hfind
    exact ⟨name, hname, hsame⟩

end PagingKey

/-! ## Entries taken in one after the other -/

namespace PagingEntries

variable {e : PagingEntries} {entries others : List (PagingKey × Value)}

/-- **Entries of two paging keys** are taken in in either order. -/
theorem add_comm {k l : PagingKey} (h : k ≠ l) (v w : Value) :
    (e.add v k).add w l = (e.add w l).add v k := by
  cases k <;> cases l <;> simp_all [add]

/-- Entries of different keys are taken in in any order. -/
theorem addAll_perm (hkeys : (entries.map Prod.fst).Nodup) (hperm : entries.Perm others) :
    e.addAll entries = e.addAll others := by
  refine hperm.foldl_eq' (fun p hp q hq e => ?_) e
  by_cases hpq : p = q
  · rw [hpq]
  · have hne : p.1 ≠ q.1 := fun heq => hpq (List.inj_on_of_nodup_map hkeys hp hq heq)
    exact add_comm hne p.2 q.2

/-- **What is found once entries of different keys are taken in**: for the sort text the value of
its own key, or else what was found before, or else the value of the alias. -/
theorem addAll_eq (hkeys : (entries.map Prod.fst).Nodup) :
    e.addAll entries =
      { sorting := (entries.lookup .sortingFields).or (e.sorting.or (entries.lookup .sortBy))
        page := (entries.lookup .page).or e.page
        pageSize := (entries.lookup .pageSize).or e.pageSize } := by
  induction entries generalizing e with
  | nil => simp [addAll]
  | cons p entries ih =>
    obtain ⟨k, v⟩ := p
    obtain ⟨hk, hkeys⟩ := List.nodup_cons.mp hkeys
    -- the key of the first entry is not found again
    have hnone : entries.lookup k = none := by
      refine List.lookup_eq_none_iff.mpr fun p hp => bne_iff_ne.mpr ?_
      rintro rfl
      exact hk (List.mem_map.mpr ⟨p, hp, rfl⟩)
    have hother {l : PagingKey} (hl : l ≠ k) : ((k, v) :: entries).lookup l = entries.lookup l := by
      rw [List.lookup_cons, beq_eq_false_iff_ne.mpr hl]
    show (e.add v k).addAll entries = _
    rw [ih hkeys]
    cases k <;> simp [add, hother, hnone]

end PagingEntries

namespace DocumentFilter

variable {document other : Mapping} {f : DocumentFilter}

/-- No two keys of the document spell the same paging key. -/
def SpellsOnce (document : Mapping) : Prop :=
  document.Pairwise fun a b => ∀ k : PagingKey, ¬ (k.IsSpelledBy a.1 ∧ k.IsSpelledBy b.1)

theorem SpellsOnce.perm (h : SpellsOnce document) (hperm : document.Perm other) :
    SpellsOnce other :=
  List.Pairwise.perm h hperm fun hab k hk => hab k hk.symm

theorem spellsOnce_iff_nodup :
    SpellsOnce document ↔ ((pagingEntries document).map Prod.fst).Nodup := by
  rw [SpellsOnce, List.Nodup, List.pairwise_map, pagingEntries, List.pairwise_filterMap]
  refine iff_of_eq (congrArg (List.Pairwise · document) ?_)
  funext a b
  simp only [PagingKey.isSpelledBy_iff]
  cases PagingKey.ofKey? a.1 <;> cases PagingKey.ofKey? b.1 <;> simp [eq_comm]

/-- The value of the key that spells a paging key. -/
def pagingValue? (document : Mapping) (k : PagingKey) : Option Value :=
  (pagingEntries document).lookup k

/-- The value that the sort text is read from: that of its own key if there is one, null or not, and
otherwise that of the alias. -/
def sortValue? (document : Mapping) : Option Value :=
  (pagingValue? document .sortingFields).or (pagingValue? document .sortBy)

/-- The values under the paging keys are read as this sort text, page and page size. -/
structure Reads (document : Mapping) (sorting : Option String) (page pageSize : Option Int) :
    Prop where
  sorting : PagingEntries.read? Shape.text? (sortValue? document) = some sorting
  page : PagingEntries.read? Shape.int? (pagingValue? document .page) = some page
  pageSize : PagingEntries.read? Shape.int? (pagingValue? document .pageSize) = some pageSize

theorem hasDistinctKeys_fieldEntries (h : document.HasDistinctKeys) :
    (fieldEntries document).HasDistinctKeys :=
  List.Pairwise.sublist (List.filter_sublist.map Prod.fst) h

theorem ownFields_eq (h : document.HasDistinctKeys) :
    ownFields document = fieldEntries document :=
  Mapping.insertAll_eq_append (m := []) ((hasDistinctKeys_fieldEntries h).imp And.left)

theorem paging_eq (h : SpellsOnce document) :
    paging document =
      ⟨sortValue? document, pagingValue? document .page, pagingValue? document .pageSize⟩ := by
  rw [paging, PagingEntries.addAll_eq (spellsOnce_iff_nodup.mp h)]
  simp [PagingEntries.empty, sortValue?, pagingValue?]

/-- **When a document of different keys is a filter, and which.** -/
theorem ofMapping_eq_ok_iff_reads (hkeys : document.HasDistinctKeys) (honce : SpellsOnce document) :
    ofMapping document = .ok f ↔
      ∃ sorting page pageSize, Reads document sorting page pageSize ∧
        f = synced ⟨{ FilterBase.empty with sorting, page, pageSize }, fieldEntries document⟩ := by
  simp only [ofMapping_eq_ok_iff, PagingEntries.toBase?_eq_some_iff, paging_eq honce,
    ownFields_eq hkeys]
  constructor
  · rintro ⟨base, ⟨sorting, page, pageSize, hsorting, hpage, hsize, rfl⟩, rfl⟩
    exact ⟨sorting, page, pageSize, ⟨hsorting, hpage, hsize⟩, rfl⟩
  · rintro ⟨sorting, page, pageSize, ⟨hsorting, hpage, hsize⟩, rfl⟩
    exact ⟨_, ⟨sorting, page, pageSize, hsorting, hpage, hsize, rfl⟩, rfl⟩

theorem paging_perm (h : SpellsOnce document) (hperm : document.Perm other) :
    paging document = paging other :=
  PagingEntries.addAll_perm (spellsOnce_iff_nodup.mp h) (hperm.filterMap _)

/-- The fields of a filter, read again, are the same fields, and there is no paging left. -/
theorem ofMapping_fields (h : ofMapping document = .ok f) (hkeys : f.fields.HasDistinctKeys) :
    ofMapping f.fields =
      .ok { f with base := { f.base with sorting := none, page := none, pageSize := none } } := by
  obtain ⟨hpaging, hfields⟩ := entries_of_isPagingFree (isPagingFree_of_ofMapping h)
  have hempty : (paging f.fields).toBase? = some .empty := by
    rw [paging, hpaging]
    rfl
  refine ofMapping_eq_ok_iff.mpr ⟨.empty, hempty, ?_⟩
  obtain ⟨base, -, rfl⟩ := ofMapping_eq_ok_iff.mp h
  rw [ownFields_eq hkeys, hfields]
  rfl

/-- A permutation of a filter's document is a filter too, and has the base of the first one but for
what is copied from the fields. -/
theorem exists_ofMapping_of_perm (honce : SpellsOnce document) (hperm : document.Perm other)
    (h : ofMapping document = .ok f) :
    ∃ base, f = synced ⟨base, ownFields document⟩ ∧
      ofMapping other = .ok (synced ⟨base, ownFields other⟩) := by
  obtain ⟨base, hbase, rfl⟩ := ofMapping_eq_ok_iff.mp h
  rw [paging_perm honce hperm] at hbase
  exact ⟨base, rfl, ofMapping_eq_ok_iff.mpr ⟨base, hbase, rfl⟩⟩

/-- **Paging keys are read in any order.** A document in which no paging key is spelled twice is a
filter iff the values of its paging keys can be read, that of an alias only where the key of the
sort text is missing; and then so is every permutation of it. The sort text, the page and the page
size are read from those values and are the same for all permutations. The fields are the other
entries, each time in the order of the document, and read again they are the same and have no
paging. -/
theorem ofMapping_perm (hkeys : document.HasDistinctKeys) (honce : SpellsOnce document)
    (hperm : document.Perm other) :
    ((∃ f, ofMapping document = .ok f) ↔
      ∃ sorting page pageSize, Reads document sorting page pageSize) ∧
    ((∃ g, ofMapping other = .ok g) ↔ ∃ f, ofMapping document = .ok f) ∧
    ∀ f, ofMapping document = .ok f →
      Reads document f.base.sorting f.base.page f.base.pageSize ∧
      f.fields = fieldEntries document ∧
      ofMapping f.fields =
        .ok { f with base := { f.base with sorting := none, page := none, pageSize := none } } ∧
      ∀ g, ofMapping other = .ok g →
        g.base.sorting = f.base.sorting ∧ g.base.page = f.base.page ∧
        g.base.pageSize = f.base.pageSize ∧ g.fields = fieldEntries other := by
  have hreads : (∃ f, ofMapping document = .ok f) ↔
      ∃ sorting page pageSize, Reads document sorting page pageSize := by
    simp only [ofMapping_eq_ok_iff_reads hkeys honce]
    constructor
    · rintro ⟨f, sorting, page, pageSize, hread, -⟩
      exact ⟨sorting, page, pageSize, hread⟩
    · rintro ⟨sorting, page, pageSize, hread⟩
      exact ⟨_, sorting, page, pageSize, hread, rfl⟩
  refine ⟨hreads, ⟨?_, ?_⟩, ?_⟩
  · rintro ⟨g, hg⟩
    obtain ⟨base, -, hf⟩ := exists_ofMapping_of_perm (honce.perm hperm) hperm.symm hg
    exact ⟨_, hf⟩
  · rintro ⟨f, hf⟩
    obtain ⟨base, -, hg⟩ := exists_ofMapping_of_perm honce hperm hf
    exact ⟨_, hg⟩
  · intro f hf
    have hfields : f.fields = fieldEntries document ∧
        Reads document f.base.sorting f.base.page f.base.pageSize := by
      obtain ⟨sorting, page, pageSize, hread, rfl⟩ :=
        (ofMapping_eq_ok_iff_reads hkeys honce).mp hf
      exact ⟨rfl, hread⟩
    have hdistinct : f.fields.HasDistinctKeys := by
      rw [hfields.1]
      exact hasDistinctKeys_fieldEntries hkeys
    refine ⟨hfields.2, hfields.1, ofMapping_fields hf hdistinct, ?_⟩
    intro g hg
    obtain ⟨base, rfl, hother⟩ := exists_ofMapping_of_perm honce hperm hf
    obtain rfl := Except.ok.inj (hg.symm.trans hother)
    exact ⟨rfl, rfl, rfl, ownFields_eq (hkeys.perm hperm)⟩

/-- A document with an alias that cannot be read, a sort text that is null under a tagged key, a
page in another case, and two fields, one of them under a key that is no text. -/
def shuffledDocument : Mapping :=
  [(.text "SortBy", .sequence []), (.tagged "x" (.text "sortingfields"), .null),
   (.text "PAGE", .ofInt 3), (.bool true, .ofInt 1), (.text "MinId", .ofInt 2)]

/-- Read from front or back, the document asks for the third page in no order. -/
theorem ofMapping_perm_reversed :
    shuffledDocument.HasDistinctKeys ∧ SpellsOnce shuffledDocument ∧
      shuffledDocument.Perm shuffledDocument.reverse ∧
      ∃ f g, ofMapping shuffledDocument = .ok f ∧
        ofMapping shuffledDocument.reverse = .ok g ∧
        Reads shuffledDocument none (some 3) none ∧
        g.base.sorting = none ∧ g.base.page = some 3 ∧
        f.fields = [(.bool true, .ofInt 1), (.text "MinId", .ofInt 2)] ∧
        g.fields = [(.text "MinId", .ofInt 2), (.bool true, .ofInt 1)] := by
  have hkeys : shuffledDocument.HasDistinctKeys := by
    simp [Mapping.HasDistinctKeys, Mapping.keys, shuffledDocument, Value.same]
  have honce : SpellsOnce shuffledDocument := by
    refine spellsOnce_iff_nodup.mpr ?_
    show [PagingKey.sortBy, PagingKey.sortingFields, PagingKey.page].Nodup
    decide
  have hperm : shuffledDocument.Perm shuffledDocument.reverse := (List.reverse_perm _).symm
  have hf : ofMapping shuffledDocument =
      .ok ⟨{ FilterBase.empty with page := some 3 },
        [(.bool true, .ofInt 1), (.text "MinId", .ofInt 2)]⟩ := by cbv
  obtain ⟨-, hboth, hread⟩ := ofMapping_perm hkeys honce hperm
  obtain ⟨hreads, -, -, hsame⟩ := hread _ hf
  obtain ⟨g, hg⟩ := hboth.mpr ⟨_, hf⟩
  obtain ⟨hsorting, hpage, -, hfields⟩ := hsame g hg
  exact ⟨hkeys, honce, hperm, _, g, hf, hg, hreads, hsorting, hpage, rfl, hfields⟩

end DocumentFilter

end RecordQuery
