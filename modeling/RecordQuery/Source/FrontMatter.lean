import RecordQuery.Text.Blank

/-!
# Front matter

A note can start with a block of YAML between two lines of hyphens, the second of which may be
three points instead. Only blank lines may stand before the first one. The second one must not be
indented; blanks may follow both.

* `frontMatter?`: `front_matter`, the block of a text.
* `flatten_linesKept`: the lines make up the text.
-/

namespace RecordQuery.Source

/-- The lines of a text, each with its line feed. -/
def linesKept : List Char → List (List Char)
  | [] => []
  | c :: cs =>
    if c = '\n' then ['\n'] :: linesKept cs
    else match linesKept cs with
      | [] => [[c]]
      | line :: lines => (c :: line) :: lines

theorem flatten_linesKept (s : List Char) : (linesKept s).flatten = s := by
  induction s with
  | nil => rfl
  | cons c cs ih =>
    unfold linesKept
    split
    · rename_i h
      simp [h, ih]
    · split
      · rename_i h
        rw [h] at ih
        simpa using ih
      · rename_i h
        rw [h] at ih
        simpa using ih

/-- The line opens a block. -/
def opensBlock (line : List Char) : Bool := Text.trim line == ['-', '-', '-']

/-- The line closes a block. -/
def closesBlock (line : List Char) : Bool :=
  Text.trimEnd line == ['-', '-', '-'] || Text.trimEnd line == ['.', '.', '.']

/-- The lines before the first one that closes a block; none if there is no such line. -/
def untilClosed : List (List Char) → Option (List (List Char))
  | [] => none
  | line :: lines => if closesBlock line then some [] else (untilClosed lines).map (line :: ·)

/-- The lines after the one that opens a block, if nothing but blank lines stands before it. -/
def afterOpening : List (List Char) → Option (List (List Char))
  | [] => none
  | line :: lines =>
    if (Text.trim line).isEmpty then afterOpening lines
    else if opensBlock line then some lines
    else none

/-- The front matter of a text. -/
def frontMatter? (text : String) : Option String :=
  ((afterOpening (linesKept text.toList)).bind untilClosed).map fun lines =>
    String.ofList lines.flatten

end RecordQuery.Source
