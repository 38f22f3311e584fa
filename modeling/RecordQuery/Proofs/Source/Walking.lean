import RecordQuery.Proofs.Source.Walker
import RecordQuery.Source.IgnoringWalk

/-!
# What a walk past ignore files finds

A walk goes down from a directory, past what the rules leave out, and carries the rules of the
directories around it. At every place these are the rules that looking them up from the root gives,
so an entry is found exactly if neither it nor a directory on the way from the starting point is
left out. No entry is found twice. The rules are those of the ignore files, and so the walk does
what a walker is relied on for.

* `FileTree.mem_walk_iff`, `FileTree.nodup_walk`: which entries are found, each once.
* `FileTree.isKept_congr`: the rules have no grounds but the ignore files.
* `Walker.ignoring_finds`: the walk finds what the rules keep.
-/

namespace RecordQuery.Source

namespace FileTree

variable {t t' d : FileTree} {place root names : List String} {name : String}
  {entries : List (String × FileTree)} {levels : List IgnoreLevel} {q : List String}

/-! ## Rules around a place -/

/-- The rules around the places in a directory: its own come first. -/
theorem levelsAbove_concat (ignoreName : String) (t : FileTree) (place : List String)
    (name : String) : t.levelsAbove ignoreName (place ++ [name]) =
      t.ignoreLevel ignoreName place :: t.levelsAbove ignoreName place := by
  have hlast : (place ++ [name]).take place.length = place := List.take_left
  have hbefore : ∀ n ∈ List.range place.length,
      t.ignoreLevel ignoreName ((place ++ [name]).take n) =
        t.ignoreLevel ignoreName (place.take n) := by
    intro n hn
    rw [List.take_append_of_le_length (Nat.le_of_lt (List.mem_range.mp hn))]
  unfold levelsAbove
  rw [List.length_append, List.length_singleton, List.range_succ, List.map_append,
    List.reverse_append, List.map_congr_left hbefore, List.map_singleton, hlast,
    List.reverse_singleton, List.singleton_append]

/-- The rules leave out no place on the way from a directory down to an entry, nor the entry. -/
def IsKept (ignoreName : String) (t : FileTree) (place : List String) : List String → Prop
  | [] => True
  | name :: names =>
    isIgnored (t.levelsAbove ignoreName (place ++ [name])) (place ++ [name])
        (t.isDirectoryAt (place ++ [name])) = false ∧
      t.IsKept ignoreName (place ++ [name]) names

/-! ## The walk -/

/-- The entries of a proper directory are found in the tree under their names. -/
theorem IsProper.find?_of_mem (h : (directory entries).IsProper)
    (hd : t.find? place = some (.directory entries)) :
    ∀ e ∈ entries, t.find? (place ++ [e.1]) = some e.2 ∧ e.2.IsProper := by
  intro e he
  have hchild : (FileTree.directory entries).child? e.1 = some e.2 := h.lookup_of_mem he
  exact ⟨by rw [find?_concat, hd, Option.bind_some, hchild], h.child hchild⟩

mutual

/-- **What a walk finds**: the entries below the directory that no rule leaves out. -/
theorem mem_walk_iff (ignoreName : String) {t : FileTree} (q : List String) :
    ∀ {d : FileTree} {place : List String}, t.find? place = some d → d.IsProper →
      (q ∈ walk ignoreName t (t.levelsAbove ignoreName place) place d ↔
        ∃ names, names ≠ [] ∧ q = place ++ names ∧ (d.find? names).isSome ∧
          t.IsKept ignoreName place names)
  | .file c, place, hd, _ => by
    refine ⟨nofun, ?_⟩
    rintro ⟨names, hne, -, hsome, -⟩
    cases names with
    | nil => exact absurd rfl hne
    | cons name names => cases hsome
  | .directory entries, place, hd, hproper => by
    have hlevels := levelsAbove_concat ignoreName t place
    rw [walk, mem_walkEntries_iff ignoreName q (hproper.find?_of_mem hd) hlevels]
    constructor
    · rintro ⟨e, he, names, hq, hsome, hkept⟩
      refine ⟨e.1 :: names, List.cons_ne_nil _ _, hq, ?_, hkept⟩
      rw [find?_cons, child?, hproper.lookup_of_mem he]
      exact hsome
    · rintro ⟨names, hne, hq, hsome, hkept⟩
      cases names with
      | nil => exact absurd rfl hne
      | cons name names =>
        obtain ⟨found, hfound⟩ := Option.isSome_iff_exists.mp hsome
        obtain ⟨c, hchild, hc⟩ := Option.bind_eq_some_iff.mp hfound
        exact ⟨(name, c), mem_of_lookup hchild, names, hq, by rw [hc, Option.isSome_some], hkept⟩

/-- What is found in some of the entries of a directory, these and what is below them. -/
theorem mem_walkEntries_iff (ignoreName : String) {t : FileTree} (q : List String) :
    ∀ {entries : List (String × FileTree)} {place : List String} {levels : List IgnoreLevel},
      (∀ e ∈ entries, t.find? (place ++ [e.1]) = some e.2 ∧ e.2.IsProper) →
      (∀ name, t.levelsAbove ignoreName (place ++ [name]) = levels) →
      (q ∈ walkEntries ignoreName t levels place entries ↔
        ∃ e ∈ entries, ∃ names, q = place ++ e.1 :: names ∧ (e.2.find? names).isSome ∧
          t.IsKept ignoreName place (e.1 :: names))
  | [], place, levels, _, _ => by simp [walkEntries]
  | (name, node) :: es, place, levels, hes, hlevels => by
    obtain ⟨⟨hnode, hproper⟩, hrestEntries⟩ := List.forall_mem_cons.mp hes
    have hrest := mem_walkEntries_iff ignoreName q hrestEntries hlevels
    have hwalk := mem_walk_iff ignoreName q hnode hproper
    rw [hlevels] at hwalk
    -- the entry itself is found by no further names, and what is below it by some
    have hfirst : q ∈ (place ++ [name]) :: walk ignoreName t levels (place ++ [name]) node ↔
        ∃ names, q = place ++ name :: names ∧ (node.find? names).isSome ∧
          t.IsKept ignoreName (place ++ [name]) names := by
      rw [List.mem_cons, hwalk]
      constructor
      · rintro (rfl | ⟨names, -, hq, hsome, hkept⟩)
        · exact ⟨[], rfl, rfl, trivial⟩
        · exact ⟨names, by rw [hq, List.append_assoc]; rfl, hsome, hkept⟩
      · rintro ⟨names, hq, hsome, hkept⟩
        cases names with
        | nil => exact .inl hq
        | cons name' names =>
          exact .inr ⟨_, List.cons_ne_nil _ _, by rw [hq, List.append_assoc]; rfl, hsome, hkept⟩
    rw [walkEntries, List.mem_append, hrest, List.mem_ite_nil_left, hfirst,
      List.exists_mem_cons_iff]
    simp only [IsKept, hlevels, Bool.not_eq_true]
    refine or_congr_left ⟨?_, ?_⟩
    · rintro ⟨hout, names, hq, hsome, hkept⟩
      exact ⟨names, hq, hsome, hout, hkept⟩
    · rintro ⟨names, hq, hsome, hout, hkept⟩
      exact ⟨hout, names, hq, hsome, hkept⟩

end

mutual

/-- **No entry is found twice.** -/
theorem nodup_walk (ignoreName : String) {t : FileTree} :
    ∀ {d : FileTree} {place : List String},
    t.find? place = some d → d.IsProper →
      (walk ignoreName t (t.levelsAbove ignoreName place) place d).Nodup
  | .file c, place, _, _ => List.nodup_nil
  | .directory entries, place, hd, hproper => by
    rw [walk]
    exact nodup_walkEntries ignoreName (hproper.find?_of_mem hd)
      (levelsAbove_concat ignoreName t place) hproper.nodup_names

theorem nodup_walkEntries (ignoreName : String) {t : FileTree} :
    ∀ {entries : List (String × FileTree)} {place : List String} {levels : List IgnoreLevel},
      (∀ e ∈ entries, t.find? (place ++ [e.1]) = some e.2 ∧ e.2.IsProper) →
      (∀ name, t.levelsAbove ignoreName (place ++ [name]) = levels) →
      (entries.map Prod.fst).Nodup → (walkEntries ignoreName t levels place entries).Nodup
  | [], place, levels, _, _, _ => List.nodup_nil
  | (name, node) :: es, place, levels, hes, hlevels, hnames => by
    obtain ⟨hname, hnames⟩ := List.nodup_cons.mp hnames
    obtain ⟨⟨hnode, hproper⟩, hes⟩ := List.forall_mem_cons.mp hes
    have hwalk := nodup_walk ignoreName hnode hproper
    have hbelow {q} := mem_walk_iff ignoreName q hnode hproper
    rw [hlevels] at hwalk hbelow
    have hself : place ++ [name] ∉ walk ignoreName t levels (place ++ [name]) node := by
      intro hmem
      obtain ⟨names, hne, hq, -, -⟩ := hbelow.mp hmem
      exact hne (List.self_eq_append_right.mp hq)
    rw [walkEntries]
    refine List.nodup_append.mpr ⟨?_, nodup_walkEntries ignoreName hes hlevels hnames, ?_⟩
    · split_ifs
      · exact List.nodup_nil
      · exact List.nodup_cons.mpr ⟨hself, hwalk⟩
    · -- what is found at the entry and at the others differs in the next name
      rintro q hq q' hq' rfl
      obtain ⟨e, he, names', hplace', -, -⟩ := (mem_walkEntries_iff ignoreName q hes hlevels).mp hq'
      have hplace : ∃ names, q = place ++ name :: names := by
        obtain ⟨-, hq⟩ := List.mem_ite_nil_left.mp hq
        rcases List.mem_cons.mp hq with rfl | hq
        · exact ⟨[], rfl⟩
        · obtain ⟨names, -, hq, -, -⟩ := hbelow.mp hq
          exact ⟨names, hq.trans (List.append_assoc _ _ _)⟩
      obtain ⟨names, hplace⟩ := hplace
      have hcons := List.append_cancel_left (hplace.symm.trans hplace')
      have hsame : name = e.1 := (List.cons.inj hcons).1
      exact hname (List.mem_map.mpr ⟨e, he, hsame.symm⟩)

end

/-! ## The grounds of the rules -/

/-- The rules in a directory depend on its ignore file alone. -/
theorem rulesIn_congr (h : ∀ content, t'.find? (place ++ [name]) = some (.file content) ↔
      t.find? (place ++ [name]) = some (.file content)) :
    t'.rulesIn place name = t.rulesIn place name := by
  have hnone {t : FileTree} (h : ∀ content, t.find? (place ++ [name]) ≠ some (.file content)) :
      t.rulesIn place name = [] := by
    unfold rulesIn
    split
    · rename_i hfile
      exact absurd hfile (h _)
    · rfl
  by_cases hfile : ∃ content, t.find? (place ++ [name]) = some (.file content)
  · obtain ⟨content, hfile⟩ := hfile
    rw [rulesIn, rulesIn, hfile, (h content).mpr hfile]
  · have hmissing := not_exists.mp hfile
    rw [hnone hmissing, hnone fun content => (h content).not.mpr (hmissing content)]

theorem levelsAbove_congr (h : SameGrounds t t' q) (place : List String) :
    t'.levelsAbove ownIgnoreName place = t.levelsAbove ownIgnoreName place := by
  have hrules (place : List String) {name : String} (hname : IsIgnorePlace (place ++ [name])) :
      t'.rulesIn place name = t.rulesIn place name :=
    rulesIn_congr fun content => h.ignoreFile hname
  unfold levelsAbove ignoreLevel
  congr 1
  refine List.map_congr_left fun n _ => ?_
  rw [hrules _ (.inl (by simp [lastName])), hrules _ (.inr (by simp [lastName]))]

/-- **The rules have no grounds but the ignore files** and what is a directory. -/
theorem isKept_congr (h : SameGrounds t t' (root ++ names)) :
    t'.IsKept ownIgnoreName root names ↔ t.IsKept ownIgnoreName root names := by
  induction names generalizing root with
  | nil => exact Iff.rfl
  | cons name names ih =>
    have honWay : root ++ [name] <+: root ++ name :: names := ⟨names, by simp⟩
    rw [List.append_cons] at h
    rw [IsKept, IsKept, levelsAbove_congr h, h.isDirectoryAt (List.prefix_append _ _), ih h]

end FileTree

/-- The rules of the walk. -/
def IgnorePolicy.ignoring : IgnorePolicy where
  Keeps := FileTree.IsKept ownIgnoreName
  keeps_congr := FileTree.isKept_congr

/-- **The walk does what a walker is relied on for**, but for the path that stands for the standard
input. -/
theorem Walker.ignoring_finds {path : String} (directory : List String) (hpath : path ≠ "-") :
    Walker.ignoring.Finds .ignoring directory path := by
  have hentries {t : FileTree} {root entries} (hlocate : t.locate directory path = .ok root)
      (hd : t.find? root = some (.directory entries)) :
      Walker.ignoring.entries ownIgnoreName t directory path =
        root :: t.walk ownIgnoreName (t.levelsAbove ownIgnoreName root) root
          (.directory entries) := by
    unfold ignoring
    dsimp only
    rw [if_neg hpath, hlocate]
    dsimp only
    rw [hd]
  constructor
  · intro t root entries hproper hlocate hd
    have hbelow := hproper.of_find? hd
    rw [hentries hlocate hd]
    refine List.nodup_cons.mpr ⟨fun hmem => ?_, FileTree.nodup_walk ownIgnoreName hd hbelow⟩
    obtain ⟨names, hne, hq, -, -⟩ := (FileTree.mem_walk_iff ownIgnoreName root hd hbelow).mp hmem
    exact hne (List.self_eq_append_right.mp hq)
  · intro t root entries q hproper hlocate hd
    have hbelow := hproper.of_find? hd
    have hfind (names : List String) :
        t.find? (root ++ names) = (FileTree.directory entries).find? names := by
      rw [FileTree.find?_append, hd]
      rfl
    rw [hentries hlocate hd, List.mem_cons, FileTree.mem_walk_iff ownIgnoreName q hd hbelow]
    constructor
    · rintro (rfl | ⟨names, -, rfl, hsome, hkept⟩)
      · exact ⟨[], (List.append_nil q).symm, by rw [hd, Option.isSome_some], trivial⟩
      · exact ⟨names, rfl, by rwa [hfind], hkept⟩
    · rintro ⟨names, rfl, hsome, hkept⟩
      cases names with
      | nil => exact .inl (List.append_nil root)
      | cons name names =>
        exact .inr ⟨_, List.cons_ne_nil _ _, rfl, by rwa [← hfind], hkept⟩

end RecordQuery.Source
