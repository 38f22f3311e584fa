import RecordQuery.Proofs.Source.FileTree

/-!
# What a walker is relied on for

A walker is not part of the program. It is relied on to find every entry that the ignore files keep,
each once, in whatever order. Which entries these are is left open, but for one thing: the ignore
files decide it, by the place of an entry and by what is a directory on the way to it. Two trees
with the same ignore files keep the same of what they have in common. A new file that is no ignore
file leaves what was there before as it was.

* `SameGrounds`: what decides about a place is the same in two trees.
* `IgnorePolicy`: rules by which ignore files keep places.
* `Walker.Finds`: a walker finds what such rules keep, each entry once.
* `sameGrounds_insert`: a new file changes nothing about the places of before.
-/

namespace RecordQuery.Source

variable {t t' : FileTree} {place q : List String} {content : FileContent}

/-- A place is one for an ignore file. -/
def IsIgnorePlace (place : List String) : Prop :=
  lastName place = ownIgnoreName ∨ lastName place = gitIgnoreName

instance (place : List String) : Decidable (IsIgnorePlace place) :=
  inferInstanceAs (Decidable (_ ∨ _))

/-- What decides about a place is the same in two trees: the ignore files, and what is a directory
on the way to the place. -/
structure SameGrounds (t t' : FileTree) (place : List String) : Prop where
  ignoreFile : ∀ {q content}, IsIgnorePlace q →
    (t'.find? q = some (.file content) ↔ t.find? q = some (.file content))
  isDirectoryAt : ∀ {q}, q <+: place → t'.isDirectoryAt q = t.isDirectoryAt q

/-- Rules by which the ignore files of a tree keep places below a directory. -/
structure IgnorePolicy where
  /-- The place with the given names on the way to it from the directory at `root` is kept. -/
  Keeps (t : FileTree) (root names : List String) : Prop
  keeps_congr : ∀ {t t' root names}, SameGrounds t t' (root ++ names) →
    (Keeps t' root names ↔ Keeps t root names)

/-- **What a walker is relied on for**: from a directory on, it finds the entries that are kept,
each once. -/
structure Walker.Finds (w : Walker) (policy : IgnorePolicy) (directory : List String)
    (path : String) : Prop where
  nodup : ∀ {t root entries}, t.IsProper → t.locate directory path = .ok root →
    t.find? root = some (.directory entries) →
    (w.entries ownIgnoreName t directory path).Nodup
  mem_iff : ∀ {t root entries q}, t.IsProper → t.locate directory path = .ok root →
    t.find? root = some (.directory entries) →
    (q ∈ w.entries ownIgnoreName t directory path ↔
      ∃ names, q = root ++ names ∧ (t.find? q).isSome ∧ policy.Keeps t root names)

/-! ## A new file -/

namespace FileTree

theorem isSome_find?_onWay (h : (t.find? place).isSome) (hq : q <+: place) :
    (t.find? q).isSome := by
  obtain ⟨rest, rfl⟩ := hq
  rw [find?_append] at h
  exact Option.isSome_of_isSome_bind h

/-- What was a directory is one still, and what was a file is none. -/
theorem Extends.isDirectoryAt (h : t.Extends t') (hq : (t.find? q).isSome) :
    t'.isDirectoryAt q = t.isDirectoryAt q := by
  obtain ⟨node, hnode⟩ := Option.isSome_iff_exists.mp hq
  unfold FileTree.isDirectoryAt
  cases node with
  | file content => rw [hnode, h.file hnode]
  | directory entries =>
    obtain ⟨entries', hentries'⟩ := h.directory hnode
    rw [hnode, hentries']

/-- **A new file that is no ignore file** changes nothing about the places of before. -/
theorem sameGrounds_insert (h : t.IsNew place) (hplace : ¬IsIgnorePlace place)
    (hq : (t.find? q).isSome) : SameGrounds t (t.insert place (.file content)) q where
  ignoreFile := by
    intro other content' hother
    refine find?_insert_eq_file_iff h ?_
    rintro rfl
    exact hplace hother
  isDirectoryAt := fun honWay => (h.extends content).isDirectoryAt (isSome_find?_onWay hq honWay)

end FileTree

end RecordQuery.Source
