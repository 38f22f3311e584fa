import RecordQuery.CommandLine.Options
import RecordQuery.Proofs.Outcome

/-!
# Options that were read

The page and the page size of options that were read from arguments have 64 signed bits: a number
that has more ends the reading, and nothing else sets them.

Reading goes argument by argument, and each step changes the options on its own: what was read
before it matters only through the options so far. So a flag can be given at any place where the
arguments before it make sense by themselves, and it changes nothing but itself.

* `HasSignedPages.set`, `HasSignedPages.raise`: one setting, one flag.
* `HasSignedPages.read`: all arguments.
* `hasSignedPages_of_ofArguments`: the options of the arguments and the environment.
* `read_eq_ok_iff`: what arguments are read as, step by step.
* `ofArguments_insert_explain`: the options with an explanation asked for as well.
-/

namespace RecordQuery.CommandLine.Options

variable {o o' : Options}

/-- The page and the page size have 64 signed bits. -/
def HasSignedPages (o : Options) : Prop :=
  (∀ n ∈ o.page, Numeral.isInt64 n = true) ∧ ∀ n ∈ o.pageSize, Numeral.isInt64 n = true

theorem isInt64_of_readNumber? {value : String} {n : Int} (h : readNumber? value = some n) :
    Numeral.isInt64 n = true := by
  unfold readNumber? Numeral.readInt64? at h
  dsimp only at h
  split at h
  · rw [Option.ite_none_right_eq_some] at h
    obtain ⟨hn, hv⟩ := h
    exact Option.some.inj hv ▸ hn
  · cases h

theorem eq_of_once {α : Type} {before value x : Option α} (h : once before value = .ok x) :
    x = value := by
  unfold once at h
  split at h
  · exact (Except.ok.inj h).symm
  · cases h

namespace HasSignedPages

theorem set {value : String} {setting : Setting} (ho : o.HasSignedPages)
    (h : o.set value setting = .ok o') : o'.HasSignedPages := by
  cases setting with
  | properties =>
    obtain rfl := Except.ok.inj h
    exact ho
  | page =>
    obtain ⟨page, hpage, rfl⟩ := map_eq_ok_iff.mp h
    obtain rfl := eq_of_once hpage
    exact ⟨fun _ hn => isInt64_of_readNumber? hn, ho.2⟩
  | pageSize =>
    obtain ⟨pageSize, hsize, rfl⟩ := map_eq_ok_iff.mp h
    obtain rfl := eq_of_once hsize
    exact ⟨ho.1, fun _ hn => isInt64_of_readNumber? hn⟩
  | records | filter | config | entity | sort | format =>
    obtain ⟨_, -, rfl⟩ := map_eq_ok_iff.mp h
    exact ho

theorem raise {flag : Flag} (ho : o.HasSignedPages) (h : o.raise flag = .ok o') :
    o'.HasSignedPages := by
  cases flag with
  | stdin | explain =>
    rw [Options.raise] at h
    split_ifs at h
    obtain rfl := Except.ok.inj h
    exact ho

/-- Reading arguments on top of options with signed pages gives such options. -/
theorem read {arguments : List String} (ho : o.HasSignedPages)
    (h : o.read arguments = .ok o') : o'.HasSignedPages := by
  fun_induction Options.read o arguments
  -- no argument is left, or all that are left are fields
  case case1 | case2 =>
    obtain rfl := Except.ok.inj h
    exact ho
  -- a setting with its value in the same argument, or in the next one
  case case3 hset _ ih | case5 hset _ ih => exact ih (ho.set hset) h
  case case9 hraise _ ih => exact ih (ho.raise hraise) h
  case case14 ih => exact ih ho h
  -- every other argument ends the reading
  all_goals cases h

end HasSignedPages

/-- **Options that were read have signed pages.** -/
theorem hasSignedPages_of_ofArguments {arguments : List String}
    {environment : List (String × String)} (h : ofArguments arguments environment = .ok o) :
    o.HasSignedPages := by
  obtain ⟨given, hread, h⟩ := bind_eq_ok_iff.mp h
  obtain ⟨records, -, h⟩ := bind_eq_ok_iff.mp h
  obtain ⟨config, -, h⟩ := bind_eq_ok_iff.mp h
  obtain rfl := Except.ok.inj h
  have hnone : Options.none.HasSignedPages := ⟨nofun, nofun⟩
  have hgiven : given.HasSignedPages := hnone.read hread
  exact hgiven

/-! ## Step by step -/

variable {r : Options} {pre post arguments : List String}

/-- The argument is two hyphens with a name after them, and perhaps a value behind an equals sign.
-/
def IsLong (argument name : String) (value? : Option String) : Prop :=
  ∃ cs, cs ≠ [] ∧ argument.toList = '-' :: '-' :: cs ∧ splitLong cs = (name, value?)

/-- The argument is a hyphen alone, or does not start with one. -/
def IsPlain (argument : String) : Prop := ∀ c cs, argument.toList ≠ '-' :: c :: cs

/-- The arguments `used` are read at once and change the options. -/
inductive Step (o : Options) : List String → Options → Prop
  /-- A setting has its value in the same argument. -/
  | inline {argument name value : String} {setting : Setting} {o' : Options}
      (hlong : IsLong argument name (some value)) (hname : Setting.ofName? name = some setting)
      (hset : o.set value setting = .ok o') : Step o [argument] o'
  /-- A setting has its value in the next argument. -/
  | separate {argument name value : String} {setting : Setting} {o' : Options}
      (hlong : IsLong argument name .none) (hname : Setting.ofName? name = some setting)
      (hvalue : isValueFor setting value = true) (hset : o.set value setting = .ok o') :
      Step o [argument, value] o'
  /-- A flag is raised. -/
  | flag {argument name : String} {flag : Flag} {o' : Options}
      (hlong : IsLong argument name .none) (hsetting : Setting.ofName? name = .none)
      (hname : Flag.ofName? name = some flag) (hraise : o.raise flag = .ok o') :
      Step o [argument] o'
  /-- A field is added. -/
  | field {argument : String} (hplain : IsPlain argument) :
      Step o [argument] { o with fields := o.fields ++ [argument] }

/-- The arguments lead from options to options. After two hyphens all of them are fields. -/
inductive ReadsTo : Options → List String → Options → Prop
  | nil {o : Options} : ReadsTo o [] o
  | ended {o : Options} (fields : List String) :
      ReadsTo o ("--" :: fields) { o with fields := o.fields ++ fields }
  | step {o o' r : Options} {used rest : List String} (h : Step o used o')
      (hrest : ReadsTo o' rest r) : ReadsTo o (used ++ rest) r

/-- Reading takes each step, whatever follows. -/
theorem Step.read_append {used : List String} (h : Step o used o') (rest : List String) :
    o.read (used ++ rest) = o'.read rest := by
  cases h with
  | inline hlong hname hset =>
    obtain ⟨_ | ⟨c, cs⟩, hcs, hargument, hsplit⟩ := hlong
    · exact absurd rfl hcs
    · simp only [List.singleton_append, read, hargument, hsplit, hname, hset]
  | separate hlong hname hvalue hset =>
    obtain ⟨_ | ⟨c, cs⟩, hcs, hargument, hsplit⟩ := hlong
    · exact absurd rfl hcs
    · simp only [List.cons_append, List.nil_append, read, hargument, hsplit, hname, hvalue, hset,
        if_true]
  | flag hlong hsetting hname hraise =>
    obtain ⟨_ | ⟨c, cs⟩, hcs, hargument, hsplit⟩ := hlong
    · exact absurd rfl hcs
    · simp only [List.singleton_append, read, hargument, hsplit, hsetting, hname, hraise]
  | field hplain =>
    rw [List.singleton_append, read]
    split
    · exact absurd ‹_› (hplain _ _)
    · exact absurd ‹_› (hplain _ _)
    · exact absurd ‹_› (hplain _ _)
    · rfl

/-- **What arguments are read as, step by step.** -/
theorem read_eq_ok_iff : o.read arguments = .ok r ↔ ReadsTo o arguments r := by
  constructor
  · intro h
    fun_induction Options.read o arguments
    case case1 =>
      obtain rfl := Except.ok.inj h
      exact .nil
    case case2 fields hargument =>
      obtain rfl := Except.ok.inj h
      obtain rfl := String.toList_inj.mp (hargument.trans (rfl : _ = "--".toList))
      exact .ended fields
    case case3 hcs hargument _ _ _ hname _ hset hsplit ih =>
      exact .step (.inline ⟨_, hcs, hargument, hsplit⟩ hname hset) (ih h)
    case case5 hcs hargument _ _ hname _ _ hvalue _ hset hsplit ih =>
      exact .step (.separate ⟨_, hcs, hargument, hsplit⟩ hname hvalue hset) (ih h)
    case case9 hcs hargument _ _ hname hsetting _ hraise hsplit ih =>
      exact .step (.flag ⟨_, hcs, hargument, hsplit⟩ hsetting hname hraise) (ih h)
    case case14 hplain ih => exact .step (.field hplain) (ih h)
    -- every other argument ends the reading
    all_goals cases h
  · intro h
    induction h with
    | nil => rfl
    | ended fields => rfl
    | step h _ ih => rw [h.read_append, ih]

/-- **Reading goes on behind arguments that make sense by themselves**, unless two hyphens ended the
options. -/
theorem read_append (h : o.read pre = .ok o') (hpre : "--" ∉ pre) (post : List String) :
    o.read (pre ++ post) = o'.read post := by
  rw [read_eq_ok_iff] at h
  induction h with
  | nil => rfl
  | ended fields => exact absurd List.mem_cons_self hpre
  | step h _ ih =>
    rw [List.append_assoc, h.read_append]
    exact ih fun hmem => hpre (List.mem_append_right _ hmem)

/-! ## Asking for an explanation -/

/-- The options with an explanation asked for. -/
def explained (o : Options) : Options := { o with explain := true }

theorem set_explained {value : String} {setting : Setting} (h : o.set value setting = .ok o') :
    o'.explain = o.explain ∧ o.explained.set value setting = .ok o'.explained := by
  cases setting with
  | properties =>
    obtain rfl := Except.ok.inj h
    exact ⟨rfl, rfl⟩
  | records | filter | config | entity | sort | page | pageSize | format =>
    obtain ⟨x, hx, rfl⟩ := map_eq_ok_iff.mp h
    exact ⟨rfl, map_eq_ok_iff.mpr ⟨x, hx, rfl⟩⟩

/-- A step that does not ask for an explanation is the same where one is asked for. -/
theorem Step.explained {used : List String} (h : Step o used o') (ho : o'.explain = false) :
    o.explain = false ∧ Step o.explained used o'.explained := by
  cases h with
  | inline hlong hname hset =>
    obtain ⟨heq, hset⟩ := set_explained hset
    exact ⟨heq.symm.trans ho, .inline hlong hname hset⟩
  | separate hlong hname hvalue hset =>
    obtain ⟨heq, hset⟩ := set_explained hset
    exact ⟨heq.symm.trans ho, .separate hlong hname hvalue hset⟩
  | @flag argument name flag _ hlong hsetting hname hraise =>
    cases flag with
    | stdin =>
      rw [Options.raise] at hraise
      split_ifs at hraise with hstdin
      obtain rfl := Except.ok.inj hraise
      exact ⟨ho, .flag hlong hsetting hname (if_neg hstdin)⟩
    | explain =>
      rw [Options.raise] at hraise
      split_ifs at hraise
      obtain rfl := Except.ok.inj hraise
      cases ho
  | field hplain => exact ⟨ho, .field hplain⟩

/-- So are all steps on the way to options that do not ask for one. -/
theorem ReadsTo.explained (h : ReadsTo o arguments r) (hr : r.explain = false) :
    o.explain = false ∧ ReadsTo o.explained arguments r.explained := by
  induction h with
  | nil => exact ⟨hr, .nil⟩
  | ended fields => exact ⟨hr, .ended fields⟩
  | step h _ ih =>
    obtain ⟨ho', hrest⟩ := ih hr
    obtain ⟨ho, hstep⟩ := h.explained ho'
    exact ⟨ho, .step hstep hrest⟩

/-- The flag is read wherever the arguments before it make sense by themselves. -/
theorem read_insert_explain (hpre : "--" ∉ pre) (hread : o.read pre = .ok o')
    (h : o.read (pre ++ post) = .ok r) (hr : r.explain = false) :
    o.read (pre ++ "--explain" :: post) = .ok r.explained := by
  rw [read_append hread hpre, read_eq_ok_iff] at h
  obtain ⟨ho', hpost⟩ := h.explained hr
  have hraise : o'.raise .explain = .ok o'.explained := if_neg (by rw [ho']; decide)
  have hflag : Step o' ["--explain"] o'.explained :=
    .flag ⟨"explain".toList, by decide, rfl, rfl⟩ rfl rfl hraise
  rw [read_append hread hpre, read_eq_ok_iff]
  exact .step hflag hpost

/-- **The options with an explanation asked for as well**, at any place among the arguments where
those before it make sense by themselves. -/
theorem ofArguments_insert_explain {environment : List (String × String)} (hpre : "--" ∉ pre)
    (hread : Options.none.read pre = .ok o') (h : ofArguments (pre ++ post) environment = .ok o)
    (ho : o.explain = false) :
    ofArguments (pre ++ "--explain" :: post) environment = .ok o.explained := by
  obtain ⟨given, hgiven, h⟩ := bind_eq_ok_iff.mp h
  obtain ⟨records, hrecords, h⟩ := bind_eq_ok_iff.mp h
  obtain ⟨config, hconfig, h⟩ := bind_eq_ok_iff.mp h
  obtain rfl := Except.ok.inj h
  refine bind_eq_ok_iff.mpr ⟨given.explained, read_insert_explain hpre hread hgiven ho, ?_⟩
  refine bind_eq_ok_iff.mpr ⟨records, hrecords, ?_⟩
  exact bind_eq_ok_iff.mpr ⟨config, hconfig, rfl⟩

end RecordQuery.CommandLine.Options
