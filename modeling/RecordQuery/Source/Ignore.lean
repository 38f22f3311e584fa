import RecordQuery.Source.FrontMatter
import RecordQuery.Source.Glob

/-!
# Ignore files

A line of an ignore file is a pattern for paths below the directory of the file. A pattern without
a slash matches at any depth, and one with a slash, apart from one at its end, only from the
directory on. A slash at the end asks for a directory, an exclamation mark in front takes matching
paths in again, and lines that start with a number sign are comments. The last rule that matches
decides.

* `IgnoreRule.ofLine?`: the rule of a line.
* `verdict?`: what the rules of a file say about a path.
-/

namespace RecordQuery.Source

/-- A rule of an ignore file. -/
structure IgnoreRule where
  takesIn : Bool
  onlyDirectory : Bool
  glob : Glob

namespace IgnoreRule

/-- The line without its trailing blanks; a line that ends with an escaped space keeps them. -/
def stripLine (line : List Char) : List Char :=
  if ['\\', ' '].isSuffixOf line then line else Text.trimEnd line

/-- The pattern matches from the directory on: with a slash in front, or one inside. -/
def isAnchored (rooted : Bool) (pattern : List Char) : Bool := rooted || pattern.contains '/'

/-- The pattern as it is matched: at any depth unless it is anchored, and below a directory but not
on the directory itself if it ends with two asterisks. -/
def widened (rooted : Bool) (pattern : List Char) : List Char :=
  let anyDepth := ['*', '*', '/']
  let free := !isAnchored rooted pattern && !anyDepth.isPrefixOf pattern && pattern ≠ ['*', '*']
  let pattern := if free then anyDepth ++ pattern else pattern
  if ['/', '*', '*'].isSuffixOf pattern then pattern ++ ['/', '*'] else pattern

/-- A pattern without the slash at its end, which may be escaped, and whether there was one. -/
def dropSlash (pattern : List Char) : List Char × Bool :=
  match pattern.reverse with
  | '/' :: '\\' :: before => (before.reverse, true)
  | '/' :: before => (before.reverse, true)
  | _ => (pattern, false)

/-- The rule of a pattern after the marks in front of it. -/
def ofPattern? (takesIn rooted : Bool) (pattern : List Char) : Option IgnoreRule :=
  let (pattern, onlyDirectory) := dropSlash pattern
  (Glob.parse? (widened rooted pattern)).map fun glob => ⟨takesIn, onlyDirectory, glob⟩

/-- The rule of a line; none for a comment, a blank line and a pattern that cannot be read. -/
def ofLine? (line : List Char) : Option IgnoreRule :=
  if line.head? = some '#' then none
  else match stripLine line with
    | [] => none
    | '\\' :: '!' :: cs => ofPattern? false false ('!' :: cs)
    | '\\' :: '#' :: cs => ofPattern? false false ('#' :: cs)
    | '!' :: '/' :: cs => ofPattern? true true cs
    | '!' :: cs => ofPattern? true false cs
    | '/' :: cs => ofPattern? false true cs
    | cs => ofPattern? false false cs

/-- A line without its end; a carriage return before a line feed belongs to that. -/
def dropLineEnd (line : List Char) : List Char :=
  match line.reverse with
  | '\n' :: '\r' :: before => before.reverse
  | '\n' :: before => before.reverse
  | _ => line

/-- The rules of an ignore file in order. A byte order mark at its start is passed. -/
def ofText (text : String) : List IgnoreRule :=
  let cs := text.toList.dropWhile (· = '\uFEFF')
  ((linesKept cs).map dropLineEnd).filterMap ofLine?

/-- The rule speaks about a path. -/
def applies (r : IgnoreRule) (path : String) (isDirectory : Bool) : Bool :=
  (!r.onlyDirectory || isDirectory) && r.glob.matches path

/-- What the last rule that applies says: `true` ignores the path, `false` takes it in. -/
def verdict? (rules : List IgnoreRule) (path : String) (isDirectory : Bool) : Option Bool :=
  (rules.reverse.find? fun r => r.applies path isDirectory).map fun r => !r.takesIn

end IgnoreRule

end RecordQuery.Source
