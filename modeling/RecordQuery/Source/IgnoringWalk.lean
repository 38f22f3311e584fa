import RecordQuery.Source.FileTree
import RecordQuery.Source.Ignore

/-!
# A walk past ignore files

The walk goes down from a directory, entry by entry, and carries the rules of the ignore files of
the directories around it. Of these the nearest directory with a rule for a place decides, and of
the two kinds of ignore files the one with a name of its own. What is below a directory that is left
out is not looked at. This is what `WalkBuilder` does with the settings of `files`: no filters but
the ignore files, those of the directories above included, whether or not there is a repository.

* `isIgnored`: what the rules around a place say about it.
* `Walker.ignoring`: the walk.
-/

namespace RecordQuery.Source

namespace FileTree

/-- The rules of the ignore file with a name in the directory at a place. -/
def rulesIn (t : FileTree) (place : List String) (name : String) : List IgnoreRule :=
  match t.find? (place ++ [name]) with
  | some (.file content) => IgnoreRule.ofText content.readable
  | _ => []

end FileTree

/-- The rules of the ignore files of one directory, which lies `depth` names below the root. -/
structure IgnoreLevel where
  depth : Nat
  own : List IgnoreRule
  git : List IgnoreRule

/-- The path from a directory to a place below it. -/
def relativePath (depth : Nat) (place : List String) : String :=
  String.intercalate "/" (place.drop depth)

/-- The rules leave a place out; the rules of the nearest directory come first. -/
def isIgnored (levels : List IgnoreLevel) (place : List String) (isDirectory : Bool) : Bool :=
  let verdict? (rules : IgnoreLevel → List IgnoreRule) : Option Bool :=
    levels.findSome? fun l =>
      IgnoreRule.verdict? (rules l) (relativePath l.depth place) isDirectory
  ((verdict? IgnoreLevel.own).or (verdict? IgnoreLevel.git)).getD false

namespace FileTree

variable (ignoreName : String) (t : FileTree)

/-- The rules of the directory at a place. -/
def ignoreLevel (place : List String) : IgnoreLevel :=
  ⟨place.length, t.rulesIn place ignoreName, t.rulesIn place gitIgnoreName⟩

/-- The rules of the directories around a place, the nearest first. -/
def levelsAbove (place : List String) : List IgnoreLevel :=
  ((List.range place.length).map fun (n : Nat) => t.ignoreLevel ignoreName (place.take n)).reverse

mutual

/-- The places below a node of the tree that are not left out. -/
def walk (levels : List IgnoreLevel) (place : List String) : FileTree → List (List String)
  | .file _ => []
  | .directory entries => walkEntries (t.ignoreLevel ignoreName place :: levels) place entries

/-- The places of some of the entries of a directory, and those below them. -/
def walkEntries (levels : List IgnoreLevel) (place : List String) :
    List (String × FileTree) → List (List String)
  | [] => []
  | (name, node) :: es =>
    (if isIgnored levels (place ++ [name]) (t.isDirectoryAt (place ++ [name])) then []
     else (place ++ [name]) :: walk levels (place ++ [name]) node) ++ walkEntries levels place es

end

end FileTree

/-- The walker by these rules. A path of one hyphen stands for the standard input, where nothing is
found. -/
def Walker.ignoring : Walker where
  entries ignoreName files directory path :=
    if path = "-" then []
    else match files.locate directory path with
      | .error _ => []
      | .ok root =>
        match files.find? root with
        | some node => root :: files.walk ignoreName (files.levelsAbove ignoreName root) root node
        | none => []

end RecordQuery.Source
