import RecordQuery.Proofs.Outcome
import RecordQuery.Proofs.Text.Trimming
import RecordQuery.Source.FrontMatter

/-!
# The grammar of front matter

A text with front matter is blank lines, a line of three hyphens that may be indented, the lines of
the block, and the first line after these that closes it: three hyphens or three points that are not
indented. Every line but the closing one must have its line feed, and anything may follow the
closing one. Reading accepts exactly these texts. Their parts are lines of the text, so cutting the
text into lines, which keep their line feeds, finds them all, and what is between the opening line
and the first closing one is determined.

* `linesKept_eq_append_cons_iff`: which texts have a given line after given lines.
* `afterOpening_eq_some_iff`, `untilClosed_eq_some_iff`: what the two passes over the lines find.
* `frontMatter?_eq_some_iff`: a text has a block as its front matter iff the grammar says so.
* `frontMatter?_grammar`: the block is unique and does not depend on what follows.
-/

namespace RecordQuery.Source

/-! ## Lines -/

section Lines

variable {line s : List Char} {lines before after : List (List Char)}

/-- A line with its line feed. -/
def IsLine (line : List Char) : Prop := ∃ body, '\n' ∉ body ∧ line = body ++ ['\n']

/-- The line is ended by its line feed, or by the end of the text. -/
def EndsLine (line rest : List Char) : Prop := IsLine line ∨ '\n' ∉ line ∧ rest = []

theorem IsLine.ne_nil (h : IsLine line) : line ≠ [] := by
  obtain ⟨body, -, rfl⟩ := h
  simp

theorem isLine_cons {c : Char} (hc : c ≠ '\n') : IsLine (c :: line) ↔ IsLine line := by
  constructor
  · rintro ⟨body, hbody, hline⟩
    cases body with
    | nil => exact absurd (List.cons.inj hline).1 hc
    | cons b body =>
      exact ⟨body, fun hmem => hbody (List.mem_cons_of_mem b hmem), (List.cons.inj hline).2⟩
  · rintro ⟨body, hbody, rfl⟩
    refine ⟨c :: body, fun hmem => ?_, rfl⟩
    rcases List.mem_cons.mp hmem with hnew | hmem
    · exact hc hnew.symm
    · exact hbody hmem

/-- A line with its line feed is cut off from whatever follows. -/
theorem linesKept_append (h : IsLine line) (s : List Char) :
    linesKept (line ++ s) = line :: linesKept s := by
  obtain ⟨body, hbody, rfl⟩ := h
  induction body with
  | nil => rw [List.nil_append, List.singleton_append, linesKept, if_pos rfl]
  | cons c body ih =>
    have hc : c ≠ '\n' := fun hc => hbody (hc ▸ List.mem_cons_self)
    have hrest := ih fun hmem => hbody (List.mem_cons_of_mem c hmem)
    rw [List.cons_append, List.cons_append, linesKept, if_neg hc, hrest]

/-- A text without a line feed is one line, unless it is empty. -/
theorem linesKept_of_not_mem (hs : '\n' ∉ s) (hne : s ≠ []) : linesKept s = [s] := by
  induction s with
  | nil => exact absurd rfl hne
  | cons c s ih =>
    have hc : c ≠ '\n' := fun hc => hs (hc ▸ List.mem_cons_self)
    rw [linesKept, if_neg hc]
    cases s with
    | nil => rfl
    | cons d s => rw [ih (fun hmem => hs (List.mem_cons_of_mem c hmem)) (List.cons_ne_nil d s)]

/-- **The first line of a text**: it ends where the text says so, and the others are the lines of
what follows. -/
theorem linesKept_eq_cons_iff :
    linesKept s = line :: lines ↔
      line ≠ [] ∧ ∃ rest, s = line ++ rest ∧ EndsLine line rest ∧ linesKept rest = lines := by
  constructor
  · induction s generalizing line lines with
    | nil => exact nofun
    | cons c s ih =>
      intro h
      rw [linesKept] at h
      split at h
      · rename_i hc
        obtain ⟨rfl, rfl⟩ := List.cons.inj h
        exact ⟨List.cons_ne_nil _ _, s, by rw [hc]; rfl, .inl ⟨[], List.not_mem_nil, rfl⟩, rfl⟩
      · rename_i hc
        split at h
        · rename_i hnone
          obtain ⟨rfl, rfl⟩ := List.cons.inj h
          have hs : s = [] := by rw [← flatten_linesKept s, hnone, List.flatten_nil]
          subst hs
          exact ⟨List.cons_ne_nil _ _, [], rfl,
            .inr ⟨fun hmem => hc (List.mem_singleton.mp hmem).symm, rfl⟩, rfl⟩
        · rename_i first others hsome
          obtain ⟨rfl, rfl⟩ := List.cons.inj h
          obtain ⟨-, rest, rfl, hends, hrest⟩ := ih hsome
          refine ⟨List.cons_ne_nil _ _, rest, rfl, ?_, hrest⟩
          rcases hends with hline | ⟨hmem, hnil⟩
          · exact .inl ((isLine_cons hc).mpr hline)
          · refine .inr ⟨fun h => ?_, hnil⟩
            exact (List.mem_cons.mp h).elim (fun h => hc h.symm) hmem
  · rintro ⟨hne, rest, rfl, hline | ⟨hmem, rfl⟩, rfl⟩
    · exact linesKept_append hline rest
    · rw [List.append_nil, linesKept_of_not_mem hmem hne]
      rfl

/-- **A line of a text, after those before it**: they have their line feeds, since it follows. -/
theorem linesKept_eq_append_cons_iff :
    linesKept s = before ++ line :: after ↔
      (∀ l ∈ before, IsLine l) ∧ line ≠ [] ∧
        ∃ rest, s = before.flatten ++ line ++ rest ∧ EndsLine line rest ∧
          linesKept rest = after := by
  induction before generalizing s with
  | nil => simp [linesKept_eq_cons_iff]
  | cons l before ih =>
    rw [List.cons_append, linesKept_eq_cons_iff, List.forall_mem_cons, List.flatten_cons]
    constructor
    · rintro ⟨-, rest, rfl, hends, hrest⟩
      obtain ⟨hbefore, hne, tail, rfl, htail, hafter⟩ := ih.mp hrest
      have hl : IsLine l := by
        refine hends.resolve_right fun ⟨_, hnil⟩ => hne ?_
        exact (List.append_eq_nil_iff.mp (List.append_eq_nil_iff.mp hnil).1).2
      exact ⟨⟨hl, hbefore⟩, hne, tail, by simp only [List.append_assoc], htail, hafter⟩
    · rintro ⟨⟨hl, hbefore⟩, hne, tail, rfl, htail, hafter⟩
      refine ⟨hl.ne_nil, before.flatten ++ line ++ tail, by simp only [List.append_assoc],
        .inl hl, ?_⟩
      exact ih.mpr ⟨hbefore, hne, tail, rfl, htail, hafter⟩

end Lines

/-! ## The two passes -/

section Passes

variable {line : List Char} {lines rest block : List (List Char)}

/-- The line opens a block, indented or not. -/
def Opens (line : List Char) : Prop := Text.trim line = "---".toList

/-- The line closes a block; it must not be indented. -/
def Closes (line : List Char) : Prop :=
  Text.trimEnd line = "---".toList ∨ Text.trimEnd line = "...".toList

instance (line : List Char) : Decidable (Opens line) := inferInstanceAs (Decidable (_ = _))

instance (line : List Char) : Decidable (Closes line) := inferInstanceAs (Decidable (_ ∨ _))

theorem opensBlock_iff : opensBlock line = true ↔ Opens line := beq_iff_eq

theorem closesBlock_iff : closesBlock line = true ↔ Closes line := by
  rw [closesBlock, Bool.or_eq_true, beq_iff_eq, beq_iff_eq]
  rfl

theorem isEmpty_trim_iff : (Text.trim line).isEmpty = true ↔ Text.IsBlankRun line :=
  List.isEmpty_iff.trans Text.trim_eq_nil_iff

theorem Opens.not_isBlankRun (h : Opens line) : ¬ Text.IsBlankRun line := by
  intro hblank
  rw [Opens, Text.trim_eq_nil_iff.mpr hblank] at h
  cases h

theorem Opens.ne_nil (h : Opens line) : line ≠ [] := by
  rintro rfl
  exact absurd h (by decide)

theorem Closes.ne_nil (h : Closes line) : line ≠ [] := by
  rintro rfl
  exact absurd h (by decide)

/-- A line feed at its end does not matter to whether a line closes a block. -/
theorem Closes.append_lineFeed (h : Closes line) : Closes (line ++ ['\n']) := by
  have hblank : Text.IsBlankRun ['\n'] := by decide
  rwa [Closes, Text.trimEnd_append hblank]

/-- **The lines after the opening one**, before which all are blank. -/
theorem afterOpening_eq_some_iff :
    afterOpening lines = some rest ↔
      ∃ blanks opening, lines = blanks ++ opening :: rest ∧
        (∀ l ∈ blanks, Text.IsBlankRun l) ∧ Opens opening := by
  induction lines with
  | nil => simp [afterOpening]
  | cons l lines ih =>
    have hfirst : (∃ blanks opening, l :: lines = blanks ++ opening :: rest ∧
        (∀ l ∈ blanks, Text.IsBlankRun l) ∧ Opens opening) ↔
          (lines = rest ∧ Opens l) ∨ Text.IsBlankRun l ∧ afterOpening lines = some rest := by
      rw [ih]
      simp only [first_cons_iff]
      constructor
      · rintro ⟨_, opening, ⟨-, -, hrest, hl⟩ | ⟨blanks, -, hl, hfirst⟩⟩
        · exact .inl ⟨hrest.symm, hl⟩
        · exact .inr ⟨hl, blanks, opening, hfirst⟩
      · rintro (⟨hrest, hl⟩ | ⟨hl, blanks, opening, hfirst⟩)
        · exact ⟨[], l, .inl ⟨rfl, rfl, hrest.symm, hl⟩⟩
        · exact ⟨l :: blanks, opening, .inr ⟨blanks, rfl, hl, hfirst⟩⟩
    rw [hfirst, afterOpening]
    by_cases hblank : Text.IsBlankRun l
    · -- a blank line does not open the block, any other one does or there is none
      have hopening : ¬ Opens l := fun hopening => hopening.not_isBlankRun hblank
      rw [if_pos (isEmpty_trim_iff.mpr hblank)]
      simp [hblank, hopening]
    · rw [if_neg (mt isEmpty_trim_iff.mp hblank)]
      by_cases hopening : Opens l <;> simp [opensBlock_iff, hopening, hblank]

/-- **The lines before the closing one**, none of which closes a block. -/
theorem untilClosed_eq_some_iff :
    untilClosed lines = some block ↔
      ∃ closing after, lines = block ++ closing :: after ∧ (∀ l ∈ block, ¬ Closes l) ∧
        Closes closing := by
  induction lines generalizing block with
  | nil => simp [untilClosed]
  | cons l lines ih =>
    simp only [first_cons_iff]
    rw [untilClosed]
    by_cases hcloses : Closes l
    · rw [if_pos (closesBlock_iff.mpr hcloses)]
      simp [hcloses, eq_comm]
    · rw [if_neg (mt closesBlock_iff.mp hcloses), Option.map_eq_some_iff]
      simp only [ih, hcloses, and_false, false_or, not_false_eq_true, true_and]
      constructor
      · rintro ⟨tail, ⟨closing, after, hfirst⟩, rfl⟩
        exact ⟨closing, after, tail, rfl, hfirst⟩
      · rintro ⟨closing, after, tail, rfl, hfirst⟩
        exact ⟨tail, ⟨closing, after, hfirst⟩, rfl⟩

end Passes

/-! ## The grammar -/

/-- The text has the block as its front matter: blank lines, an opening line, the lines of the
block, none of which closes it, a closing line, and anything after that. -/
def HasFrontMatter (text block : List Char) : Prop :=
  ∃ (blanks : List (List Char)) (opening : List Char) (lines : List (List Char))
    (closing rest : List Char),
    text = blanks.flatten ++ opening ++ block ++ closing ++ rest ∧
    (∀ line ∈ blanks, IsLine line ∧ Text.IsBlankRun line) ∧
    (IsLine opening ∧ Opens opening) ∧
    (block = lines.flatten ∧ ∀ line ∈ lines, IsLine line ∧ ¬ Closes line) ∧
    EndsLine closing rest ∧ Closes closing

/-- A line feed and anything else after a text with front matter change nothing about it. -/
theorem HasFrontMatter.append {text block : List Char} (h : HasFrontMatter text block)
    (body : List Char) : HasFrontMatter (text ++ '\n' :: body) block := by
  obtain ⟨blanks, opening, lines, closing, rest, rfl, hblanks, hopening, hblock, hends, hclosing⟩ :=
    h
  rcases hends with hline | ⟨hmem, rfl⟩
  · exact ⟨blanks, opening, lines, closing, rest ++ '\n' :: body, by simp only [List.append_assoc],
      hblanks, hopening, hblock, .inl hline, hclosing⟩
  · -- the closing line had no line feed and gets this one
    exact ⟨blanks, opening, lines, closing ++ ['\n'], body, by simp, hblanks, hopening, hblock,
      .inl ⟨closing, hmem, rfl⟩, hclosing.append_lineFeed⟩

/-- **Reading front matter accepts exactly its grammar.** -/
theorem frontMatter?_eq_some_iff {text block : String} :
    frontMatter? text = some block ↔ HasFrontMatter text.toList block.toList := by
  simp only [frontMatter?, Option.map_eq_some_iff, Option.bind_eq_some_iff,
    afterOpening_eq_some_iff, untilClosed_eq_some_iff]
  constructor
  · rintro ⟨lines, ⟨_, ⟨blanks, opening, htext, hblanks, hopening⟩, closing, after, rfl, hlines,
      hclosing⟩, rfl⟩
    obtain ⟨hblankLines, -, tail, htext, hopens, htail⟩ := linesKept_eq_append_cons_iff.mp htext
    obtain ⟨hblockLines, -, rest, rfl, hends, -⟩ := linesKept_eq_append_cons_iff.mp htail
    have hline : IsLine opening := by
      refine hopens.resolve_right fun ⟨_, hnil⟩ => hclosing.ne_nil ?_
      exact (List.append_eq_nil_iff.mp (List.append_eq_nil_iff.mp hnil).1).2
    refine ⟨blanks, opening, lines, closing, rest, ?_,
      fun l hl => ⟨hblankLines l hl, hblanks l hl⟩, ⟨hline, hopening⟩,
      ⟨String.toList_ofList, fun l hl => ⟨hblockLines l hl, hlines l hl⟩⟩, hends, hclosing⟩
    rw [htext, String.toList_ofList]
    simp only [List.append_assoc]
  · rintro ⟨blanks, opening, lines, closing, rest, htext, hblanks, ⟨hline, hopening⟩,
      ⟨hblock, hlines⟩, hends, hclosing⟩
    have htail : linesKept (lines.flatten ++ closing ++ rest) = lines ++ closing :: linesKept rest :=
      linesKept_eq_append_cons_iff.mpr
        ⟨fun l hl => (hlines l hl).1, hclosing.ne_nil, rest, rfl, hends, rfl⟩
    refine ⟨lines, ⟨_, ⟨blanks, opening, ?_, fun l hl => (hblanks l hl).2, hopening⟩, closing,
      linesKept rest, rfl, fun l hl => (hlines l hl).2, hclosing⟩, ?_⟩
    · refine linesKept_eq_append_cons_iff.mpr
        ⟨fun l hl => (hblanks l hl).1, hopening.ne_nil, _, ?_, .inl hline, htail⟩
      rw [htext, hblock]
      simp only [List.append_assoc]
    · rw [← hblock, String.ofList_toList]

/-- **Front matter is what its grammar says.** A text is found to have a block exactly if it is blank
lines, an opening line, the lines of the block and a closing line, with anything after that; the
block of such a text is unique, and a text that is not of this form has none. The block is found
again whatever body follows. -/
theorem frontMatter?_grammar (text : String) :
    (∀ block, frontMatter? text = some block ↔ HasFrontMatter text.toList block.toList) ∧
    (∀ block other, HasFrontMatter text.toList block → HasFrontMatter text.toList other →
      block = other) ∧
    (frontMatter? text = none ↔ ∀ block, ¬ HasFrontMatter text.toList block) ∧
    ∀ block body, HasFrontMatter text.toList block →
      frontMatter? (text ++ "\n" ++ body) = some (String.ofList block) := by
  have hfound {s : String} {block : List Char} (h : HasFrontMatter s.toList block) :
      frontMatter? s = some (String.ofList block) :=
    frontMatter?_eq_some_iff.mpr (by rwa [String.toList_ofList])
  refine ⟨fun block => frontMatter?_eq_some_iff, fun block other hblock hother => ?_, ?_,
    fun block body hblock => hfound ?_⟩
  · have hsame := (hfound hblock).symm.trans (hfound hother)
    exact String.ofList_injective (Option.some.inj hsame)
  · rw [Option.eq_none_iff_forall_ne_some]
    refine ⟨fun h block hblock => h _ (hfound hblock), fun h block hblock => ?_⟩
    exact h _ (frontMatter?_eq_some_iff.mp hblock)
  · simpa using hblock.append body.toList

/-- A note whose opening line is indented and ends in a carriage return, with an indented line of
hyphens in the block and without a line feed after the closing line. -/
def indentedNote : String := " \n --- \r\nId: 4\n ---\n..."

/-- The block of the note ends at the line of points, before or after a body is added. -/
theorem frontMatter?_grammar_indented :
    HasFrontMatter indentedNote.toList "Id: 4\n ---\n".toList ∧
      frontMatter? indentedNote = some "Id: 4\n ---\n" ∧
      frontMatter? (indentedNote ++ "\n" ++ "---\nbody") = some "Id: 4\n ---\n" := by
  have hnote : HasFrontMatter indentedNote.toList "Id: 4\n ---\n".toList := by
    refine ⟨[" \n".toList], " --- \r\n".toList, ["Id: 4\n".toList, " ---\n".toList],
      "...".toList, [], by decide, ?_, ⟨⟨" --- \r".toList, by decide, by decide⟩, by decide⟩,
      ⟨by decide, ?_⟩, .inr ⟨by decide, rfl⟩, by decide⟩
    · exact List.forall_mem_singleton.mpr ⟨⟨[' '], by decide, by decide⟩, by decide⟩
    · exact List.forall_mem_cons.mpr ⟨⟨⟨"Id: 4".toList, by decide, by decide⟩, by decide⟩,
        List.forall_mem_singleton.mpr ⟨⟨" ---".toList, by decide, by decide⟩, by decide⟩⟩
  exact ⟨hnote, ((frontMatter?_grammar indentedNote).1 _).mpr hnote,
    (frontMatter?_grammar indentedNote).2.2.2 _ _ hnote⟩

end RecordQuery.Source
