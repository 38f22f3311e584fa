import Mathlib.Data.List.Sort
import RecordQuery.Proofs.Order.StableSort
import RecordQuery.Proofs.Source.Walker
import RecordQuery.Source.Records

/-!
# Loading a directory

The records of a directory are those of the record files below it that are kept, file by file in the
order of their places. A walker may find these in any order, since no place is found twice and so
there is one way to sort them. A file that cannot be read or holds no document adds nothing, and so
a new one of that kind changes nothing, unless it brings rules of its own. It makes places on the
way to it where there were none, but no other file is below those.

* `pairwise_mergeSort_places`: different places are in strict order once they are sorted.
* `RecordSource.load_directory`: the records of a directory, file by file.
* `recordsAt_of_unread`: what adds no records.
* `RecordSource.load_insert`: the records of a directory with a new file that adds none.
-/

namespace RecordQuery.Source

variable {t : FileTree} {place root : List String} {content : FileContent}
  {entries : List (String × FileTree)} {w : Walker} {policy : IgnorePolicy}

/-! ## The order of places -/

instance : Std.TransCmp comparePlaces := transCmp_comap compare (List.map String.toList)

/-- The one place comes before the other. -/
def Precedes (a b : List String) : Prop := comparePlaces a b = .lt

instance : Std.Irrefl Precedes where
  irrefl a h := by
    have hself : comparePlaces a a = .eq := Std.ReflCmp.compare_self
    cases hself.symm.trans h

instance : Std.Antisymm Precedes where
  antisymm a b hab hba := by
    have hswap : comparePlaces b a = (comparePlaces a b).swap := Std.OrientedCmp.eq_swap
    rw [Precedes, hswap, hab] at hba
    cases hba

theorem eq_of_comparePlaces {a b : List String} (h : comparePlaces a b = .eq) : a = b := by
  have hlists : a.map String.toList = b.map String.toList := Std.LawfulEqCmp.eq_of_compare h
  exact List.map_injective_iff.mpr (fun _ _ => String.toList_inj.mp) hlists

/-- Different places are in strict order once they are sorted. -/
theorem pairwise_mergeSort_places {found : List (List String)} (h : found.Nodup) :
    (found.mergeSort fun a b => comparePlaces a b != .gt).Pairwise Precedes := by
  have hsorted : IsStableSort comparePlaces found _ := isStableSort_mergeSort found
  refine (hsorted.ordered.and (hsorted.perm.nodup_iff.mpr h)).imp ?_
  rintro a b ⟨hle, hne⟩
  cases hcompare : comparePlaces a b with
  | lt => exact hcompare
  | eq => exact absurd (eq_of_comparePlaces hcompare) hne
  | gt => exact absurd hcompare hle

/-! ## Record files -/

/-- A file below the directory at `root`, by its name a record file, that is kept. -/
structure FileTree.IsRecordFile (t : FileTree) (policy : IgnorePolicy)
    (root place : List String) : Prop where
  file : ∃ content, t.find? place = some (.file content)
  format : (RecordFormat.ofName? (lastName place)).isSome
  kept : ∃ names, place = root ++ names ∧ policy.Keeps t root names

/-- Why a file adds no records to those of a directory. -/
inductive Unread (name : String) : FileContent → Prop
  | otherName {content : FileContent} (h : RecordFormat.ofName? name = none) : Unread name content
  | notText {before : String} : Unread name (.bytes before)
  | noFrontMatter {text : String} (hname : RecordFormat.ofName? name = some .frontMatter)
      (htext : frontMatter? text = none) : Unread name (.text text)
  | invalid {format : RecordFormat} {text part : String}
      (hname : RecordFormat.ofName? name = some format) (hpart : yamlPart? format text = some part)
      (hinvalid : Value.ofYaml? part = none) : Unread name (.text text)

namespace RecordSource

variable {directory : List String} {path : String}

theorem isRecordFile_iff :
    isRecordFile t place = true ↔ (∃ content, t.find? place = some (.file content)) ∧
      (RecordFormat.ofName? (lastName place)).isSome = true := by
  unfold isRecordFile
  split
  · rename_i content hfile
    simp [hfile]
  · rename_i hnone
    simp only [Bool.false_eq_true, false_iff, not_and]
    rintro ⟨content, hfile⟩
    exact absurd hfile (hnone content)

/-- **A record file that cannot be read or holds no document adds no records.** -/
theorem recordsAt_of_unread (hfile : t.find? place = some (.file content))
    (hformat : (RecordFormat.ofName? (lastName place)).isSome)
    (h : Unread (lastName place) content) : recordsAt t place = [] := by
  unfold recordsAt
  rw [hfile]
  cases h with
  | otherName hname =>
    rw [hname] at hformat
    cases hformat
  | notText => rfl
  | noFrontMatter hname htext =>
    simp only [recordsOfText, hname, Option.getD_some, yamlPart?, htext, Option.bind_none]
  | invalid hname hpart hinvalid =>
    simp only [recordsOfText, hname, Option.getD_some, hpart, Option.bind_some, hinvalid]

/-! ## The records of a directory -/

theorem load_eq_loadWalked (hlocate : t.locate directory path = .ok root)
    (hd : t.find? root = some (.directory entries)) :
    (RecordSource.path path).load w t directory = loadWalked w t directory path := by
  have hfile : t.isFile directory path = false := by
    rw [FileTree.isFile, hlocate]
    dsimp only
    rw [hd]
  rw [load, hfile]
  rfl

/-- **The records of a directory** are those of its record files, in the order of their places. -/
theorem load_directory (hwalk : w.Finds policy directory path) (hproper : t.IsProper)
    (hlocate : t.locate directory path = .ok root)
    (hd : t.find? root = some (.directory entries)) :
    ∃ places : List (List String), places.Pairwise Precedes ∧
      (∀ q, q ∈ places ↔ t.IsRecordFile policy root q) ∧
      (RecordSource.path path).load w t directory = places.flatMap (recordsAt t) := by
  have hnodup := (hwalk.nodup hproper hlocate hd).filter (isRecordFile t)
  refine ⟨_, pairwise_mergeSort_places hnodup, fun q => ?_, load_eq_loadWalked hlocate hd⟩
  rw [List.mem_mergeSort, List.mem_filter, hwalk.mem_iff hproper hlocate hd, isRecordFile_iff]
  constructor
  · rintro ⟨⟨names, hq, -, hkept⟩, hfile, hformat⟩
    exact ⟨hfile, hformat, names, hq, hkept⟩
  · rintro ⟨⟨content, hfile⟩, hformat, names, hq, hkept⟩
    exact ⟨⟨names, hq, by rw [hfile, Option.isSome_some], hkept⟩, ⟨content, hfile⟩, hformat⟩

end RecordSource

/-! ## A new file -/

variable {q : List String}

/-- The record files below a directory are those of before, and at most the new one. -/
theorem FileTree.isRecordFile_insert_iff (h : t.IsNew place) (hplace : ¬IsIgnorePlace place)
    (hq : q ≠ place) :
    (t.insert place (.file content)).IsRecordFile policy root q ↔ t.IsRecordFile policy root q := by
  have hfile {content'} : (t.insert place (.file content)).find? q = some (.file content') ↔
      t.find? q = some (.file content') := find?_insert_eq_file_iff h hq
  have hgrounds {content'} (hold : t.find? q = some (.file content')) :
      SameGrounds t (t.insert place (.file content)) q :=
    sameGrounds_insert h hplace (by rw [hold, Option.isSome_some])
  constructor
  · rintro ⟨⟨content', hinserted⟩, hformat, names, rfl, hkept⟩
    have hold := hfile.mp hinserted
    exact ⟨⟨content', hold⟩, hformat, names, rfl, (policy.keeps_congr (hgrounds hold)).mp hkept⟩
  · rintro ⟨⟨content', hold⟩, hformat, names, rfl, hkept⟩
    exact ⟨⟨content', hfile.mpr hold⟩, hformat, names, rfl,
      (policy.keeps_congr (hgrounds hold)).mpr hkept⟩

namespace RecordSource

variable {directory : List String} {path : String}

/-- What adds nothing may as well be left out. -/
theorem flatMap_filter {α β : Type} {f : α → List β} {p : α → Bool} {l : List α}
    (h : ∀ a ∈ l, p a = false → f a = []) : (l.filter p).flatMap f = l.flatMap f := by
  induction l with
  | nil => rfl
  | cons a l ih =>
    obtain ⟨ha, hl⟩ := List.forall_mem_cons.mp h
    rw [List.flatMap_cons, ← ih hl]
    cases hp : p a with
    | true => rw [List.filter_cons_of_pos hp, List.flatMap_cons]
    | false => rw [List.filter_cons_of_neg (Bool.eq_false_iff.mp hp), ha hp, List.nil_append]

theorem recordsAt_insert_of_ne {q : List String} (h : t.IsNew place) (hq : q ≠ place)
    (hfile : ∃ content', t.find? q = some (.file content')) :
    recordsAt (t.insert place (.file content)) q = recordsAt t q := by
  obtain ⟨content', hfile⟩ := hfile
  rw [recordsAt, recordsAt, hfile, (FileTree.find?_insert_eq_file_iff h hq).mpr hfile]

/-- **A new file that adds no records** leaves the records of a directory as they were. -/
theorem load_insert (hwalk : w.Finds policy directory path) (hproper : t.IsProper)
    (hlocate : t.locate directory path = .ok root)
    (hd : t.find? root = some (.directory entries)) (hnew : t.IsNew place)
    (hplace : ¬IsIgnorePlace place) (hunread : Unread (lastName place) content) :
    (RecordSource.path path).load w (t.insert place (.file content)) directory =
      (RecordSource.path path).load w t directory := by
  have hlocate' := FileTree.locate_of_extends (hnew.extends content) hlocate
  obtain ⟨entries', hd'⟩ := (hnew.extends content).directory hd
  obtain ⟨places, hsorted, hplaces, hload⟩ := load_directory hwalk hproper hlocate hd
  obtain ⟨places', hsorted', hplaces', hload'⟩ :=
    load_directory hwalk (hproper.insert place content) hlocate' hd'
  -- the new file may be among the record files, where it adds nothing; the others are the same
  have hothers : places'.filter (· ≠ place) = places := by
    refine (hsorted'.filter _).eq_of_mem_iff hsorted fun q => ?_
    rw [List.mem_filter, hplaces', hplaces, decide_eq_true_iff]
    constructor
    · rintro ⟨hq, hne⟩
      exact (FileTree.isRecordFile_insert_iff hnew hplace hne).mp hq
    · intro hq
      have hne : q ≠ place := by
        rintro rfl
        obtain ⟨content', hfile⟩ := hq.file
        cases hnew.absent.symm.trans hfile
      exact ⟨(FileTree.isRecordFile_insert_iff hnew hplace hne).mpr hq, hne⟩
  have hnothing : ∀ q ∈ places', decide (q ≠ place) = false →
      recordsAt (t.insert place (.file content)) q = [] := by
    intro q hq heq
    obtain rfl := not_not.mp (of_decide_eq_false heq)
    exact recordsAt_of_unread (FileTree.find?_insert_self t q _) ((hplaces' q).mp hq).format hunread
  calc (RecordSource.path path).load w (t.insert place (.file content)) directory
      = places'.flatMap (recordsAt (t.insert place (.file content))) := hload'
    _ = places.flatMap (recordsAt (t.insert place (.file content))) := by
      rw [← flatMap_filter hnothing, hothers]
    _ = places.flatMap (recordsAt t) := by
      refine List.flatMap_congr fun q hq => ?_
      obtain ⟨hq', hne⟩ := List.mem_filter.mp (hothers.symm ▸ hq)
      exact recordsAt_insert_of_ne hnew (of_decide_eq_true hne) ((hplaces q).mp hq).file
    _ = (RecordSource.path path).load w t directory := hload.symm

end RecordSource

end RecordQuery.Source
