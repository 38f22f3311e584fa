import Mathlib.Data.List.Basic
import RecordQuery.Proofs.Outcome
import RecordQuery.Source.FileTree

/-!
# A new file in a tree

A file that is put at a place where nothing stood leaves every other file as it was and adds none.
It may add directories, those on the way to it, and so a path that led nowhere can come to lead
somewhere; a path that led somewhere leads there still.

* `FileTree.find?_append`: looking up one place from another.
* `FileTree.find?_insert_eq_file_iff`: the files of the tree with a new one.
* `FileTree.IsProper.insert`: names in a directory stay different from one another.
* `FileTree.readText_of_extends`: what can be read in a tree can be read in a tree that extends it.
-/

namespace RecordQuery.Source.FileTree

variable {t d : FileTree} {place names rest : List String} {name : String}
  {content : FileContent} {entries : List (String × FileTree)}

/-! ## Looking up -/

theorem find?_cons (t : FileTree) (name : String) (names : List String) :
    t.find? (name :: names) = (t.child? name).bind (·.find? names) := rfl

/-- A place is looked up from any other one on the way to it. -/
theorem find?_append (t : FileTree) (place names : List String) :
    t.find? (place ++ names) = (t.find? place).bind (·.find? names) := by
  induction place generalizing t with
  | nil => rfl
  | cons name place ih =>
    rw [List.cons_append, find?_cons, find?_cons, Option.bind_assoc]
    exact congrArg _ (funext fun c => ih c)

theorem find?_concat (t : FileTree) (place : List String) (name : String) :
    t.find? (place ++ [name]) = (t.find? place).bind (·.child? name) := by
  rw [find?_append]
  congr 1
  funext c
  rw [find?_cons]
  cases c.child? name <;> rfl

/-! ## Setting an entry -/

theorem lookup_replace (entries : List (String × FileTree)) (name other : String) (t : FileTree) :
    (entries.map fun e => if e.1 = name then (name, t) else e).lookup other =
      if other = name then (entries.lookup name).map fun _ => t else entries.lookup other := by
  induction entries with
  | nil => simp
  | cons e entries ih =>
    obtain ⟨key, node⟩ := e
    by_cases hkey : key = name
    · subst hkey
      rw [List.map_cons, if_pos rfl, List.lookup_cons, List.lookup_cons_self, ih]
      by_cases hother : other = key
      · simp [hother]
      · simp [hother, List.lookup_cons, beq_false_of_ne hother]
    · rw [List.map_cons, if_neg hkey, List.lookup_cons, ih, List.lookup_cons, List.lookup_cons,
        beq_false_of_ne (Ne.symm hkey)]
      by_cases hother : other = key
      · subst hother
        simp [hkey]
      · rw [beq_false_of_ne hother]

/-- Setting an entry changes what is found under its name and nothing else. -/
theorem lookup_setEntry (entries : List (String × FileTree)) (name other : String) (t : FileTree) :
    (setEntry entries name t).lookup other =
      if other = name then some t else entries.lookup other := by
  unfold setEntry
  split_ifs with hsome hother hother
  · obtain ⟨c, hc⟩ := Option.isSome_iff_exists.mp hsome
    rw [lookup_replace, if_pos hother, hc, Option.map_some]
  · rw [lookup_replace, if_neg hother]
  · rw [List.lookup_append, hother, Option.not_isSome_iff_eq_none.mp hsome]
    simp
  · rw [List.lookup_append, List.lookup_cons, beq_false_of_ne hother]
    simp

theorem names_setEntry (entries : List (String × FileTree)) (name : String) (t : FileTree) :
    (setEntry entries name t).map Prod.fst =
      if (entries.lookup name).isSome then entries.map Prod.fst
      else entries.map Prod.fst ++ [name] := by
  unfold setEntry
  split_ifs
  · rw [List.map_map]
    refine List.map_congr_left fun e _ => ?_
    by_cases he : e.1 = name <;> simp [he]
  · rw [List.map_append]
    rfl

/-- Setting an entry keeps names different from one another. -/
theorem nodup_names_setEntry (h : (entries.map Prod.fst).Nodup) (name : String) (t : FileTree) :
    ((setEntry entries name t).map Prod.fst).Nodup := by
  rw [names_setEntry]
  split_ifs with hsome
  · exact h
  · have hname : name ∉ entries.map Prod.fst := by
      intro hmem
      obtain ⟨e, he, rfl⟩ := List.mem_map.mp hmem
      exact hsome (List.lookup_isSome_iff.mpr ⟨e, he, beq_self_eq_true _⟩)
    exact List.nodup_append.mpr ⟨h, by simp, fun a ha b hb hab =>
      hname (List.mem_singleton.mp hb ▸ hab ▸ ha)⟩

/-! ## Putting a node at a place -/

/-- Below the first name, a node is put into the directory of that name, which is empty if there was
none. -/
theorem child?_insert_cons (t : FileTree) (name : String) (names : List String) (node : FileTree)
    (other : String) :
    (t.insert (name :: names) node).child? other =
      if other = name then some (((t.child? name).getD (.directory [])).insert names node)
      else t.child? other := by
  have hentries : t.entries.lookup other = t.child? other := by cases t <;> rfl
  rw [← hentries]
  exact lookup_setEntry t.entries name other _

/-- What was put at a place is found there. -/
theorem find?_insert_self (t : FileTree) (place : List String) (node : FileTree) :
    (t.insert place node).find? place = some node := by
  induction place generalizing t with
  | nil => cases t <;> rfl
  | cons name names ih => rw [find?_cons, child?_insert_cons, if_pos rfl, Option.bind_some, ih]

/-- In an empty directory a new file is the only one. -/
theorem eq_of_find?_insert_empty {content other : FileContent}
    (h : ((directory []).insert names (.file content)).find? place = some (.file other)) :
    place = names := by
  induction names generalizing place with
  | nil =>
    cases place with
    | nil => rfl
    | cons name place => cases h
  | cons name names ih =>
    cases place with
    | nil => cases h
    | cons name' place =>
      rw [find?_cons, child?_insert_cons] at h
      split_ifs at h with hname
      · rw [hname, ih h]
      · cases h

/-! ## New files -/

/-- Nothing stands at the place, and no file stands on the way to it. -/
structure IsNew (t : FileTree) (place : List String) : Prop where
  absent : t.find? place = none
  noFile : ∀ {onWay content}, onWay <+: place → t.find? onWay ≠ some (.file content)

theorem IsNew.child (h : t.IsNew (name :: names)) (hd : t.child? name = some d) :
    d.IsNew names where
  absent := by
    have habsent := h.absent
    rwa [find?_cons, hd] at habsent
  noFile := by
    intro onWay content hprefix hfile
    have hbelow : t.find? (name :: onWay) = some (.file content) := by
      rw [find?_cons, hd]
      exact hfile
    exact h.noFile (List.cons_prefix_cons.mpr ⟨rfl, hprefix⟩) hbelow

/-- What is below a directory under a name that it lacks is new. -/
theorem isNew_of_lookup_eq_none (hd : t.find? place = some (.directory entries))
    (hname : entries.lookup name = none) : t.IsNew (place ++ name :: names) := by
  have hmissing (rest : List String) : t.find? (place ++ name :: rest) = none := by
    rw [find?_append, hd, Option.bind_some, find?_cons, child?, hname]
    rfl
  refine ⟨hmissing names, fun {onWay content} honWay hfile => ?_⟩
  rcases List.prefix_or_prefix_of_prefix honWay (List.prefix_append _ _) with habove | hbelow
  · obtain ⟨rest, rfl⟩ := habove
    rw [find?_append, hfile] at hd
    cases rest <;> cases hd
  · obtain ⟨rest, rfl⟩ := hbelow
    cases rest with
    | nil =>
      rw [List.append_nil, hd] at hfile
      cases hfile
    | cons name' rest =>
      obtain ⟨rfl, -⟩ := List.cons_prefix_cons.mp ((List.prefix_append_right_inj place).mp honWay)
      cases (hmissing rest).symm.trans hfile

/-- **A new file adds one file** and leaves the others as they were. -/
theorem find?_insert_eq_file_iff {other : List String} {content' : FileContent}
    (h : t.IsNew place) (hother : other ≠ place) :
    (t.insert place (.file content)).find? other = some (.file content') ↔
      t.find? other = some (.file content') := by
  induction place generalizing t other with
  | nil => cases h.absent
  | cons name names ih =>
    cases other with
    | nil =>
      refine ⟨fun hfile => ?_, fun hfile => (h.noFile List.nil_prefix hfile).elim⟩
      cases t <;> cases hfile
    | cons name' other =>
      rw [find?_cons, find?_cons, child?_insert_cons]
      by_cases hname : name' = name
      · subst hname
        have hne : other ≠ names := fun heq => hother (by rw [heq])
        rw [if_pos rfl, Option.bind_some]
        cases hchild : t.child? name' with
        | none =>
          refine ⟨fun hfile => ?_, nofun⟩
          exact absurd (eq_of_find?_insert_empty hfile) hne
        | some c => exact ih (h.child hchild) hne
      · rw [if_neg hname]

/-- Directories stay directories. -/
theorem IsNew.exists_find?_insert_directory {other : List String} (h : t.IsNew place)
    (hd : t.find? other = some (.directory entries)) :
    ∃ entries', (t.insert place (.file content)).find? other = some (.directory entries') := by
  induction place generalizing t other with
  | nil => cases h.absent
  | cons name names ih =>
    cases other with
    | nil => exact ⟨_, rfl⟩
    | cons name' other =>
      rw [find?_cons, child?_insert_cons]
      rw [find?_cons] at hd
      by_cases hname : name' = name
      · subst hname
        obtain ⟨c, hchild, hc⟩ := Option.bind_eq_some_iff.mp hd
        rw [if_pos rfl, hchild]
        exact ih (h.child hchild) hc
      · rw [if_neg hname]
        exact ⟨entries, hd⟩

/-! ## Proper trees -/

/-- In every directory of the tree the names are different from one another. -/
def IsProper (t : FileTree) : Prop :=
  ∀ place entries, t.find? place = some (.directory entries) → (entries.map Prod.fst).Nodup

theorem IsProper.of_find? (h : t.IsProper) (hd : t.find? place = some d) : d.IsProper := by
  intro rest entries hrest
  have hplace : t.find? (place ++ rest) = some (.directory entries) := by
    rw [find?_append, hd]
    exact hrest
  exact h _ _ hplace

theorem IsProper.child (h : t.IsProper) (hd : t.child? name = some d) : d.IsProper := by
  have hfind : t.find? [name] = some d := by
    rw [find?_cons, hd]
    rfl
  exact h.of_find? hfind

theorem IsProper.nodup_names (h : (directory entries).IsProper) : (entries.map Prod.fst).Nodup :=
  have hself : (directory entries).find? [] = some (directory entries) := rfl
  h _ _ hself

/-- In a proper directory each entry is found under its name. -/
theorem IsProper.lookup_of_mem (h : (directory entries).IsProper) {e : String × FileTree}
    (he : e ∈ entries) : entries.lookup e.1 = some e.2 := by
  have hnames := h.nodup_names
  obtain ⟨before, after, rfl⟩ := List.append_of_mem he
  rw [List.map_append, List.map_cons, List.nodup_append] at hnames
  refine List.lookup_eq_some_iff.mpr ⟨before, after, rfl, fun other hother => bne_iff_ne.mpr ?_⟩
  exact (hnames.2.2 other.1 (List.mem_map_of_mem hother) e.1 List.mem_cons_self).symm

theorem mem_of_lookup (h : entries.lookup name = some d) : (name, d) ∈ entries := by
  obtain ⟨before, after, rfl, -⟩ := List.lookup_eq_some_iff.mp h
  exact List.mem_append_right before List.mem_cons_self

theorem isProper_file (content : FileContent) : (file content).IsProper := by
  intro place entries h
  cases place <;> cases h

theorem isProper_empty : (directory []).IsProper := by
  intro place entries h
  cases place with
  | nil =>
    cases h
    exact List.nodup_nil
  | cons name place => cases h

/-- A tree stays proper when a file is put into it. -/
theorem IsProper.insert (h : t.IsProper) (place : List String) (content : FileContent) :
    (t.insert place (.file content)).IsProper := by
  induction place generalizing t with
  | nil =>
    cases t <;> exact isProper_file content
  | cons name names ih =>
    intro other entries hd
    cases other with
    | nil =>
      have hentries : (t.entries.map Prod.fst).Nodup := by
        cases t with
        | file content => exact List.nodup_nil
        | directory entries => exact h.nodup_names
      obtain rfl := FileTree.directory.inj (Option.some.inj hd)
      exact nodup_names_setEntry hentries name _
    | cons name' other =>
      rw [find?_cons, child?_insert_cons] at hd
      split_ifs at hd
      · cases hchild : t.child? name with
        | none =>
          rw [hchild] at hd
          exact ih isProper_empty _ _ hd
        | some c =>
          rw [hchild] at hd
          exact ih (h.child hchild) _ _ hd
      · obtain ⟨c, hchild, hc⟩ := Option.bind_eq_some_iff.mp hd
        exact h.child hchild _ _ hc

/-! ## Reading in a larger tree -/

/-- The other tree has the files of this one, and directories where this one has some. -/
structure Extends (t t' : FileTree) : Prop where
  file : ∀ {place content}, t.find? place = some (.file content) →
    t'.find? place = some (.file content)
  directory : ∀ {place entries}, t.find? place = some (.directory entries) →
    ∃ entries', t'.find? place = some (.directory entries')

variable {t' : FileTree} {directory : List String} {path text : String}

theorem IsNew.extends (h : t.IsNew place) (content : FileContent) :
    t.Extends (t.insert place (.file content)) where
  file := by
    intro other content' hfile
    refine (find?_insert_eq_file_iff h ?_).mpr hfile
    rintro rfl
    cases h.absent.symm.trans hfile
  directory := h.exists_find?_insert_directory

theorem Extends.isSome (h : t.Extends t') (hd : (t.find? place).isSome) :
    (t'.find? place).isSome := by
  obtain ⟨d, hd⟩ := Option.isSome_iff_exists.mp hd
  cases d with
  | file content => rw [h.file hd, Option.isSome_some]
  | directory entries =>
    obtain ⟨entries', hd'⟩ := h.directory hd
    rw [hd', Option.isSome_some]

/-- A step that leads somewhere leads there still. -/
theorem stepTo_of_extends (h : t.Extends t') {part : String} {next : List String}
    (hstep : t.stepTo place part = .ok next) : t'.stepTo place part = .ok next := by
  unfold stepTo at hstep
  split at hstep
  · cases hstep
  · cases hstep
  · rename_i entries hd
    obtain ⟨entries', hd'⟩ := h.directory hd
    rw [stepTo, hd']
    dsimp only
    have hentry (hsome : (entries.lookup part).isSome) : (entries'.lookup part).isSome := by
      have hchild : (t.find? (place ++ [part])).isSome := by
        rw [find?_concat, hd]
        exact hsome
      have hchild' := h.isSome hchild
      rwa [find?_concat, hd'] at hchild'
    split_ifs at hstep ⊢ with _ _ hmissing
    · exact hstep
    · exact hstep
    · exact hstep
    · rename_i hsome
      exact absurd (hentry hsome) hmissing

theorem foldlM_stepTo_of_extends (h : t.Extends t') {parts start : List String}
    (hsteps : parts.foldlM (stepTo t) start = .ok place) :
    parts.foldlM (stepTo t') start = .ok place := by
  induction parts generalizing start with
  | nil => exact hsteps
  | cons part parts ih =>
    rw [List.foldlM_cons] at hsteps ⊢
    obtain ⟨next, hnext, hrest⟩ := bind_eq_ok_iff.mp hsteps
    exact bind_eq_ok_iff.mpr ⟨next, stepTo_of_extends h hnext, ih hrest⟩

/-- A path that leads to a place leads there still. -/
theorem locate_of_extends (h : t.Extends t') (hlocate : t.locate directory path = .ok place) :
    t'.locate directory path = .ok place := by
  unfold locate at *
  split_ifs at hlocate ⊢
  · exact foldlM_stepTo_of_extends h hlocate
  · exact foldlM_stepTo_of_extends h hlocate

/-- **What can be read can still be read.** -/
theorem readText_of_extends (h : t.Extends t') (hread : t.readText directory path = .ok text) :
    t'.readText directory path = .ok text := by
  obtain ⟨place, hplace, hread⟩ := bind_eq_ok_iff.mp hread
  refine bind_eq_ok_iff.mpr ⟨place, locate_of_extends h hplace, ?_⟩
  split at hread
  · rename_i hfile
    rw [h.file hfile]
    exact hread
  all_goals cases hread

end RecordQuery.Source.FileTree
