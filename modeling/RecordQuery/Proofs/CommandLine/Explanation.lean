import Mathlib
import RecordQuery.CommandLine.Run
import RecordQuery.Proofs.CommandLine.Options
import RecordQuery.Source.IgnoringWalk

/-!
# Asking for an explanation

A run that is asked to explain itself writes its predicate to the standard error before it queries.
To do so it compiles the filter once more, ahead of the query, and there the two kinds of run part:
a filter that does not compile ends the explained run with a message and no answer, while the
plain run goes on to the query, which fails for the same reason and answers with it. Every other run
ends the same way with and without the explanation.

* `answer_eq_ending`, `answer_explained`: the end of a run, plain and explained.
* `exists_render_failure`: an answer that reports a failure can always be written.
* `run_insert_explain`: a run with the flag against the run without it.
-/

namespace RecordQuery.CommandLine

/-! ## Outcomes -/

namespace Outcome

/-- The exit code of the program. -/
def code : Outcome → Nat
  | .stopped stop => stop.code
  | .answered code _ _ => code
  | .failed _ _ => 2

/-- The outcome with another text on the standard error. -/
def withErrors (errors : String) : Outcome → Outcome
  | .stopped stop => .stopped stop
  | .answered code output _ => .answered code output errors
  | .failed failure _ => .failed failure errors

@[simp] theorem code_withErrors (errors : String) (outcome : Outcome) :
    (outcome.withErrors errors).code = outcome.code := by cases outcome <;> rfl

@[simp] theorem withErrors_withErrors (errors errors' : String) (outcome : Outcome) :
    (outcome.withErrors errors').withErrors errors = outcome.withErrors errors := by
  cases outcome <;> rfl

end Outcome

variable {s : Surroundings} {o : Options} {r : Request}

/-! ## The end of a run -/

/-- The end of a run whose request is ready and that has written `errors`. -/
def ending (o : Options) (r : Request) (errors : String) : Outcome :=
  match render o.outputFormat (responseValue (respond r)) with
  | .error failure => .failed failure errors
  | .ok text => .answered (exitCode (respond r)) (printed text) errors

theorem withErrors_ending (errors errors' : String) :
    (ending o r errors').withErrors errors = ending o r errors := by
  unfold ending
  cases render o.outputFormat (responseValue (respond r)) <;> rfl

/-- A run that is not asked for an explanation writes none. -/
theorem answer_eq_ending (ho : o.explain = false) : answer o r = ending o r "" := by
  have hnone : explanation o r = .ok "" := if_neg (by rw [ho]; decide)
  rw [answer, hnone]
  rfl

/-- **The end of a run that is asked for an explanation**: the predicate is written and the run goes
on, or there is no predicate and the run has failed. -/
theorem answer_explained (o : Options) (r : Request) :
    answer o.explained r = match r.service.compileFilter r.filter r.schema with
      | .ok p => ending o r (p.toText ++ "\n")
      | .error e => .failed (.query e) "" := by
  have hexplanation : explanation o.explained r =
      ((r.service.compileFilter r.filter r.schema).mapError .query).map fun p => p.toText ++ "\n" :=
    if_pos rfl
  rw [answer, hexplanation]
  cases r.service.compileFilter r.filter r.schema <;> rfl

/-- A query whose filter does not compile fails for the same reason. -/
theorem respond_of_compileFilter_eq_error {e : FilterError}
    (h : r.service.compileFilter r.filter r.schema = .error e) :
    respond r = .ofResult (.error e) := by
  have hquery : r.service.query r.filter r.schema r.records = .error e :=
    bind_eq_error_iff.mpr (.inl h)
  rw [respond, hquery]

/-- **An answer that reports a failure can always be written**: all its keys are texts, and it holds
a text, numbers and no items. -/
theorem exists_render_failure (format : Format) (e : FilterError) :
    ∃ text, render format (responseValue (.ofResult (.error e))) = .ok text := by
  have hvalue : responseValue (.ofResult (.error e)) =
      .mapping [(.text "items", .sequence []), (.text "page", .ofInt 0),
        (.text "pageSize", .ofInt 0), (.text "totalCount", .ofInt 0),
        (.text "error", .text e.message)] := rfl
  have hzero : Value.ofInt 0 = .number (.int 0 (by decide)) := rfl
  rw [hvalue, hzero]
  cases format with
  | json =>
    simp [render, Value.toJson, Json.write, Json.writeEntries, Json.writeItems, Json.keyText,
      Except.map, Except.mapError]
  | yaml =>
    simp [render, Value.toYaml, Yaml.unwritable?, Yaml.entriesUnwritable?, Yaml.itemsUnwritable?,
      Except.mapError]

/-- A run whose filter does not compile answers with the reason. -/
theorem ending_of_compileFilter_eq_error {e : FilterError}
    (h : r.service.compileFilter r.filter r.schema = .error e) (errors : String) :
    ∃ text, render o.outputFormat (responseValue (.ofResult (.error e))) = .ok text ∧
      ending o r errors = .answered 2 (printed text) errors := by
  obtain ⟨text, htext⟩ := exists_render_failure o.outputFormat e
  refine ⟨text, htext, ?_⟩
  rw [ending, respond_of_compileFilter_eq_error h, htext]
  rfl

/-! ## Two runs -/

/-- What a run needs does not depend on whether it is to be explained. -/
theorem prepare_explained : prepare s o.explained = prepare s o := rfl

/-- A run that fails before its filter is needed is the same with an explanation. -/
theorem runOptions_explained_of_not_ready {failure : RunFailure}
    (h : prepare s o = .error failure) : runOptions s o.explained = runOptions s o := by
  rw [runOptions, runOptions, prepare_explained, h]

/-- A run whose filter compiles differs by the line with the predicate. -/
theorem runOptions_explained_of_compiles (ho : o.explain = false) (h : prepare s o = .ok r)
    {p : Predicate} (hcompile : r.service.compileFilter r.filter r.schema = .ok p) :
    runOptions s o.explained = (runOptions s o).withErrors (p.toText ++ "\n") := by
  rw [runOptions, runOptions, prepare_explained, h]
  show answer o.explained r = (answer o r).withErrors _
  rw [answer_explained, hcompile, answer_eq_ending ho, withErrors_ending]

/-- A run whose filter does not compile answers with the reason; with an explanation it fails with
it. -/
theorem runOptions_explained_of_not_compiles (ho : o.explain = false) (h : prepare s o = .ok r)
    {e : FilterError} (hcompile : r.service.compileFilter r.filter r.schema = .error e) :
    runOptions s o.explained = .failed (.query e) "" ∧
      ∃ text, render o.outputFormat (responseValue (.ofResult (.error e))) = .ok text ∧
        runOptions s o = .answered 2 (printed text) "" := by
  rw [runOptions, runOptions, prepare_explained, h]
  show answer o.explained r = _ ∧ ∃ text, _ ∧ answer o r = _
  rw [answer_explained, hcompile, answer_eq_ending ho]
  exact ⟨rfl, ending_of_compileFilter_eq_error hcompile ""⟩

/-- **A run with the flag against the run without it.** Let arguments be accepted that do not ask
for an explanation, and let the flag stand at a place where the arguments before it make sense by
themselves. The exit code is the same with the flag. So is all but the standard error, iff the
filter compiles or the run fails before it is needed. If the filter compiles, the flag adds the line
with the predicate to the standard error and nothing else; if it does not, the plain run answers
with the reason, and the run with the flag fails with it and answers nothing. -/
theorem run_insert_explain {pre post : List String} {before : Options}
    (hread : Options.ofArguments (pre ++ post) s.environment = .ok o) (ho : o.explain = false)
    (hpre : "--" ∉ pre) (hbefore : Options.none.read pre = .ok before) :
    (run s (pre ++ "--explain" :: post)).code = (run s (pre ++ post)).code ∧
      ((run s (pre ++ "--explain" :: post)).withErrors "" = (run s (pre ++ post)).withErrors "" ↔
        ∀ r, prepare s o = .ok r → ∃ p, r.service.compileFilter r.filter r.schema = .ok p) ∧
      (∀ r p, prepare s o = .ok r → r.service.compileFilter r.filter r.schema = .ok p →
        run s (pre ++ "--explain" :: post) =
          (run s (pre ++ post)).withErrors (p.toText ++ "\n")) ∧
      ∀ r e, prepare s o = .ok r → r.service.compileFilter r.filter r.schema = .error e →
        run s (pre ++ "--explain" :: post) = .failed (.query e) "" ∧
          ∃ text, render o.outputFormat (responseValue (.ofResult (.error e))) = .ok text ∧
            run s (pre ++ post) = .answered 2 (printed text) "" := by
  have hplain : run s (pre ++ post) = runOptions s o := by rw [run, hread]
  have hexplained : run s (pre ++ "--explain" :: post) = runOptions s o.explained := by
    rw [run, Options.ofArguments_insert_explain hpre hbefore hread ho]
  rw [hplain, hexplained]
  refine ⟨?_, ?_, fun r p hprepare hp => runOptions_explained_of_compiles ho hprepare hp,
    fun r e hprepare he => runOptions_explained_of_not_compiles ho hprepare he⟩
  · cases hprepare : prepare s o with
    | error failure => rw [runOptions_explained_of_not_ready hprepare]
    | ok r =>
      cases hcompile : r.service.compileFilter r.filter r.schema with
      | ok p => rw [runOptions_explained_of_compiles ho hprepare hcompile, Outcome.code_withErrors]
      | error e =>
        obtain ⟨hfailed, text, -, hanswered⟩ :=
          runOptions_explained_of_not_compiles ho hprepare hcompile
        rw [hfailed, hanswered]
        rfl
  · constructor
    · intro hsame r hprepare
      cases hcompile : r.service.compileFilter r.filter r.schema with
      | ok p => exact ⟨p, rfl⟩
      | error e =>
        obtain ⟨hfailed, text, -, hanswered⟩ :=
          runOptions_explained_of_not_compiles ho hprepare hcompile
        rw [hfailed, hanswered] at hsame
        cases hsame
    · intro hcompiles
      cases hprepare : prepare s o with
      | error failure => rw [runOptions_explained_of_not_ready hprepare]
      | ok r =>
        obtain ⟨p, hp⟩ := hcompiles r hprepare
        rw [runOptions_explained_of_compiles ho hprepare hp, Outcome.withErrors_withErrors]

/-- A directory with one file of records. -/
def oneRecord : Surroundings where
  files := .directory [("work", .directory [("a.yaml", .file (.text "Id: 1"))])]
  walker := .ignoring
  directory := ["work"]
  environment := [("DYNQ_RECORDS", "a.yaml")]
  input := some ""

/-- The flag among other options, in front of fields that follow two hyphens. -/
theorem run_insert_explain_between :
    Options.ofArguments (["--page", "-1"] ++ ["--page-size=5", "--", "MinId=1"])
        oneRecord.environment = .ok { Options.none with
          records := some "a.yaml", page := some (-1), pageSize := some 5, fields := ["MinId=1"] } ∧
      Options.none.read ["--page", "-1"] = .ok { Options.none with page := some (-1) } ∧
      "--" ∉ ["--page", "-1"] ∧
      (run oneRecord (["--page", "-1"] ++ "--explain" :: ["--page-size=5", "--", "MinId=1"])).code =
        (run oneRecord (["--page", "-1"] ++ ["--page-size=5", "--", "MinId=1"])).code := by
  have hread : Options.ofArguments (["--page", "-1"] ++ ["--page-size=5", "--", "MinId=1"])
      oneRecord.environment = .ok { Options.none with
        records := some "a.yaml", page := some (-1), pageSize := some 5,
        fields := ["MinId=1"] } := by
    cbv
  have hbefore :
      Options.none.read ["--page", "-1"] = .ok { Options.none with page := some (-1) } := by
    cbv
  have hpre : "--" ∉ ["--page", "-1"] := by decide
  exact ⟨hread, hbefore, hpre, (run_insert_explain hread rfl hpre hbefore).1⟩

/-- The answer that reports a list where a scalar belongs. -/
def listReport : String :=
  "\x7b\n  \"items\": [],\n  \"page\": 0,\n  \"pageSize\": 0,\n  \"totalCount\": 0,\n" ++
    "  \"error\": \"cannot compare property 'Id' as list: found list value for Equal filter field " ++
    "'Id'\"\n\x7d\n"

/-- With a filter that does not compile, the plain run answers and the explained run does not. -/
theorem exists_run_explain_without_answer :
    run oneRecord ["Id=[1]"] = .answered 2 listReport "" ∧
      ∃ e, run oneRecord ["--explain", "Id=[1]"] = .failed (.query e) "" := by
  constructor
  · decide +kernel
  · exact ⟨.coercionFailure "Id" .list (.listValue .equal "Id"), by decide +kernel⟩

end RecordQuery.CommandLine
