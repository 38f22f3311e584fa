import RecordQuery.Proofs.CommandLine.Explanation
import RecordQuery.Proofs.Source.Loading
import RecordQuery.Proofs.Source.Walking

/-!
# A new file among the records

A run over a directory reads three things from files: its configuration, its filter and the
records. A new file that adds no records is not among the last, and brings no rules if it is not an
ignore file. It can still be read as one of the first two, if the options name it; a run that failed
for the lack of its filter then comes to an answer. Where these two are as they were, so is all that
the run prints, and its exit code.

* `toOption_prepare_congr`, `runOptions_congr`: what a run prints depends on these three things.
* `run_insert_unread`: the records of a directory, and a run with a new file that adds none.
* `exists_run_new_filter`: the new file may be the filter that was missing.
-/

namespace RecordQuery.CommandLine

open Source

/-- The answer that a run prints; a run that comes to no answer prints none. -/
def Outcome.output : Outcome → String
  | .answered _ output _ => output
  | .stopped _ | .failed .. => ""

/-- The surroundings with a file put at a place. -/
def Surroundings.withFile (s : Surroundings) (place : List String) (content : FileContent) :
    Surroundings := { s with files := s.files.insert place (.file content) }

/-! ## What a run reads -/

theorem toOption_bind {ε α β : Type} (x : Except ε α) (f : α → Except ε β) :
    (x >>= f).toOption = x.toOption.bind fun a => (f a).toOption := by
  cases x <;> rfl

/-- The text of a document that the options name. -/
def documentText? (s : Surroundings) (path : String) : Option String :=
  (s.files.readText s.directory path).toOption

variable {s s' : Surroundings} {o : Options}

theorem toOption_readConfig (s : Surroundings) (path : String) :
    (readConfig s (some path)).toOption = (documentText? s path).bind FilterConfig.ofYaml? := by
  unfold readConfig documentText?
  dsimp only
  cases s.files.readText s.directory path with
  | error cause => rfl
  | ok text =>
    dsimp only [Except.toOption, Option.bind_some]
    cases FilterConfig.ofYaml? text <;> rfl

theorem toOption_readFilter (s : Surroundings) (path : String) :
    (readFilter s (some path)).toOption =
      (documentText? s path).bind fun text => (filterMapping path text).toOption := by
  unfold readFilter documentText?
  dsimp only
  cases s.files.readText s.directory path <;> rfl

theorem toOption_readConfig_congr
    (h : ∀ path ∈ o.config, documentText? s' path = documentText? s path) :
    (readConfig s' o.config).toOption = (readConfig s o.config).toOption := by
  cases hpath : o.config with
  | none => rfl
  | some path => rw [toOption_readConfig, toOption_readConfig, h path hpath]

theorem toOption_buildFilter_congr
    (h : ∀ path ∈ o.filter, documentText? s' path = documentText? s path) :
    (buildFilter s' o).toOption = (buildFilter s o).toOption := by
  have hread : (readFilter s' o.filter).toOption = (readFilter s o.filter).toOption := by
    cases hpath : o.filter with
    | none => rfl
    | some path => rw [toOption_readFilter, toOption_readFilter, h path hpath]
  rw [buildFilter, buildFilter, toOption_bind, toOption_bind, hread]

/-- **What a run needs** depends on its configuration, its filter and its records. -/
theorem toOption_prepare_congr
    (hconfig : ∀ path ∈ o.config, documentText? s' path = documentText? s path)
    (hfilter : ∀ path ∈ o.filter, documentText? s' path = documentText? s path)
    (hsource : recordSource s' o = recordSource s o)
    (hload : ∀ source, recordSource s o = .ok source →
      source.load s'.walker s'.files s'.directory = source.load s.walker s.files s.directory) :
    (prepare s' o).toOption = (prepare s o).toOption := by
  unfold prepare
  rw [toOption_bind, toOption_bind, toOption_readConfig_congr hconfig, hsource]
  congr 1
  funext config
  cases hok : recordSource s o with
  | error failure => rfl
  | ok source =>
    show (buildFilter s' o >>= _).toOption = (buildFilter s o >>= _).toOption
    rw [toOption_bind, toOption_bind, toOption_buildFilter_congr hfilter, hload source hok]

/-- **What a run prints and its exit code** depend on what it needs, or on its lack. -/
theorem runOptions_congr (h : (prepare s' o).toOption = (prepare s o).toOption) :
    (runOptions s' o).code = (runOptions s o).code ∧
      (runOptions s' o).output = (runOptions s o).output := by
  unfold runOptions
  cases hprepare : prepare s o with
  | ok r =>
    cases hprepare' : prepare s' o with
    | ok r' =>
      rw [hprepare, hprepare'] at h
      obtain rfl := Option.some.inj h
      exact ⟨rfl, rfl⟩
    | error failure' =>
      rw [hprepare, hprepare'] at h
      cases h
  | error failure =>
    cases hprepare' : prepare s' o with
    | ok r' =>
      rw [hprepare, hprepare'] at h
      cases h
    | error failure' => exact ⟨rfl, rfl⟩

/-! ## A run with a new file -/

/-- A file is new, and adds no records, no rules and no document that the options name. -/
structure AddsNothing (s : Surroundings) (o : Options) (place : List String)
    (content : FileContent) : Prop where
  isNew : s.files.IsNew place
  noRules : ¬IsIgnorePlace place
  unread : Unread (lastName place) content
  noConfig : ∀ path ∈ o.config, ∀ text,
    documentText? (s.withFile place content) path = some text → documentText? s path = some text
  noFilter : ∀ path ∈ o.filter, ∀ text,
    documentText? (s.withFile place content) path = some text → documentText? s path = some text

variable {place : List String} {content : FileContent} {path : String}

/-- A document that can be read only if it could be before is the one that it was. -/
theorem documentText?_withFile (hnew : s.files.IsNew place)
    (h : ∀ text, documentText? (s.withFile place content) path = some text →
      documentText? s path = some text) :
    documentText? (s.withFile place content) path = documentText? s path := by
  have hstill (text : String) (htext : documentText? s path = some text) :
      documentText? (s.withFile place content) path = some text := by
    unfold documentText? at *
    cases hread : s.files.readText s.directory path with
    | error cause =>
      rw [hread] at htext
      cases htext
    | ok text' =>
      rw [hread] at htext
      obtain rfl := Option.some.inj htext
      have hread' := FileTree.readText_of_extends (hnew.extends content) hread
      exact congrArg Except.toOption hread'
  exact Option.ext fun text => ⟨h text, hstill text⟩

/-- **The records of a directory, and a run with a new file that adds none.** Whatever the walker,
if it finds what the ignore files keep, the records of a proper directory are those of the record
files below it that are kept, file by file in the order of their places, each file once; those that
cannot be read or hold no document add none. A run over the directory prints the same and ends with
the same code when a new file is there that adds no records, no rules and no document that the
options name. -/
theorem run_insert_unread {s : Surroundings} {policy : IgnorePolicy} {path : String}
    {root : List String} {entries : List (String × FileTree)}
    (hwalk : s.walker.Finds policy s.directory path) (hproper : s.files.IsProper)
    (hlocate : s.files.locate s.directory path = .ok root)
    (hd : s.files.find? root = some (.directory entries)) :
    (∃ places : List (List String), places.Pairwise Precedes ∧
      (∀ q, q ∈ places ↔ s.files.IsRecordFile policy root q) ∧
      (RecordSource.path path).load s.walker s.files s.directory =
        places.flatMap (RecordSource.recordsAt s.files) ∧
      ∀ q ∈ places, ∀ content, s.files.find? q = some (.file content) →
        Unread (lastName q) content → RecordSource.recordsAt s.files q = []) ∧
    ∀ {arguments o place content}, Options.ofArguments arguments s.environment = .ok o →
      o.stdin = false → o.records = some path → AddsNothing s o place content →
      (run (s.withFile place content) arguments).code = (run s arguments).code ∧
        (run (s.withFile place content) arguments).output = (run s arguments).output := by
  constructor
  · obtain ⟨places, hsorted, hplaces, hload⟩ :=
      RecordSource.load_directory hwalk hproper hlocate hd
    refine ⟨places, hsorted, hplaces, hload, fun q hq content hfile hunread => ?_⟩
    exact RecordSource.recordsAt_of_unread hfile ((hplaces q).mp hq).format hunread
  · intro arguments o place content ho hstdin hrecords hnothing
    have hrun (files : FileTree) :
        run { s with files } arguments = runOptions { s with files } o := by
      rw [run, ho]
    have hsource (files : FileTree) : recordSource { s with files } o = .ok (.path path) := by
      rw [recordSource, hstdin, hrecords]
      rfl
    have hload := RecordSource.load_insert hwalk hproper hlocate hd hnothing.isNew
      hnothing.noRules hnothing.unread
    have hprepare : (prepare (s.withFile place content) o).toOption = (prepare s o).toOption := by
      refine toOption_prepare_congr ?_ ?_ ((hsource _).trans (hsource _).symm) ?_
      · exact fun path hpath => documentText?_withFile hnothing.isNew (hnothing.noConfig path hpath)
      · exact fun path hpath => documentText?_withFile hnothing.isNew (hnothing.noFilter path hpath)
      · intro source hok
        obtain rfl := Except.ok.inj (hok.symm.trans (hsource s.files))
        exact hload
    have hold : run s arguments = runOptions s o := hrun s.files
    have hnew :
        run (s.withFile place content) arguments = runOptions (s.withFile place content) o :=
      hrun _
    rw [hold, hnew]
    exact runOptions_congr hprepare

/-- Two record files, one of them a note further down, and one that is left out. -/
def dataFiles : FileTree :=
  (((FileTree.insert (.directory []) ["work", "data", "b.yaml"] (.file (.text "Id: 2"))).insert
    ["work", "data", "a", "note.md"] (.file (.text "---\nId: 1\n---\nnote"))).insert
    ["work", "data", "old.yaml"] (.file (.text "Id: 3"))).insert
    ["work", "data", ".dynqignore"] (.file (.text "old.*"))

/-- A run beside the directory with these files. -/
def besideData : Surroundings := ⟨dataFiles, .ignoring, ["work"], [], some ""⟩

/-- A record file that is no document, in a directory that was not there, changes nothing. -/
theorem run_insert_unread_broken :
    AddsNothing besideData { Options.none with records := some "data", fields := ["MinId=1"] }
        ["work", "data", "new", "broken.yml"] (.text "Id: [") ∧
      (run (besideData.withFile ["work", "data", "new", "broken.yml"] (.text "Id: ["))
          ["--records", "data", "MinId=1"]).code =
        (run besideData ["--records", "data", "MinId=1"]).code ∧
      (run (besideData.withFile ["work", "data", "new", "broken.yml"] (.text "Id: ["))
          ["--records", "data", "MinId=1"]).output =
        (run besideData ["--records", "data", "MinId=1"]).output := by
  have hproper : dataFiles.IsProper :=
    (((FileTree.isProper_empty.insert _ _).insert _ _).insert _ _).insert _ _
  have hlocate : dataFiles.locate ["work"] "data" = .ok ["work", "data"] := by cbv
  have hread : Options.ofArguments ["--records", "data", "MinId=1"] besideData.environment =
      .ok { Options.none with records := some "data", fields := ["MinId=1"] } := by cbv
  have hinvalid : Value.ofYaml? "Id: [" = none :=
    Option.isNone_iff_eq_none.mp (by decide +kernel)
  have hnothing : AddsNothing besideData
      { Options.none with records := some "data", fields := ["MinId=1"] }
      ["work", "data", "new", "broken.yml"] (.text "Id: [") := by
    have hdata : dataFiles.find? ["work", "data"] = some (.directory _) := rfl
    have hnew : dataFiles.IsNew ["work", "data", "new", "broken.yml"] :=
      FileTree.isNew_of_lookup_eq_none hdata rfl
    have hunread : Unread "broken.yml" (.text "Id: [") := .invalid (by cbv) rfl hinvalid
    exact ⟨hnew, by decide, hunread, fun _ hpath => absurd hpath (Option.not_mem_none _),
      fun _ hpath => absurd hpath (Option.not_mem_none _)⟩
  have hwalk : besideData.walker.Finds .ignoring besideData.directory "data" :=
    Walker.ignoring_finds _ (by decide)
  exact ⟨hnothing, (run_insert_unread hwalk hproper hlocate rfl).2 hread rfl rfl hnothing⟩

/-- A run beside an empty directory. -/
def besideEmpty : Surroundings :=
  ⟨.directory [("work", .directory [("data", .directory [])])], .ignoring, ["work"], [], some ""⟩

/-- The answer without items. -/
def emptyAnswer : String :=
  "\x7b\n  \"items\": [],\n  \"page\": 1,\n  \"pageSize\": 50,\n  \"totalCount\": 0\n\x7d\n"

/-- A new file that is no record file can be the filter that a run lacked. -/
theorem exists_run_new_filter :
    besideEmpty.files.IsNew ["work", "data", "f.txt"] ∧
      ¬IsIgnorePlace ["work", "data", "f.txt"] ∧ RecordFormat.ofName? "f.txt" = none ∧
      run besideEmpty ["--records", "data", "--filter", "data/f.txt"] =
        .failed (.filterUnreadable "data/f.txt" .missing) "" ∧
      run (besideEmpty.withFile ["work", "data", "f.txt"] (.text "MinId: 2"))
          ["--records", "data", "--filter", "data/f.txt"] = .answered 1 emptyAnswer "" := by
  have hdata : besideEmpty.files.find? ["work", "data"] = some (.directory []) := rfl
  have hnew : besideEmpty.files.IsNew ["work", "data", "f.txt"] :=
    FileTree.isNew_of_lookup_eq_none hdata rfl
  exact ⟨hnew, by decide, by cbv, by decide +kernel, by decide +kernel⟩

end RecordQuery.CommandLine
