import RecordQuery.CommandLine.Run
import RecordQuery.Source.IgnoringWalk

/-!
# The program

The outer layer of the command line, `main` without its log: it reads the files that a run looks at
into a tree, hands them to `RecordQuery.CommandLine.runOptions`, and prints the outcome.
-/

namespace RecordQuery.CommandLine

open Source

/-- Directories are read so deep. -/
def readingDepth : Nat := 256

/-- What the file at a path on disk holds. -/
def readContent (path : String) : IO FileContent := do
  return .ofBytes (← IO.FS.readBinFile path)

/-- The path of a place on disk. -/
def diskPath (place : List String) : String := "/" ++ String.intercalate "/" place

/-- The node at a place on disk, if there is one that can be read. -/
def readNode : Nat → List String → IO (Option FileTree)
  | 0, _ => return none
  | depth + 1, place => do
    let path := (← IO.currentDir) / diskPath place
    try
      if ← path.isDir then
        let mut entries : List (String × FileTree) := []
        for entry in ← path.readDir do
          if let some node ← readNode depth (place ++ [entry.fileName]) then
            entries := (entry.fileName, node) :: entries
        return some (.directory entries.reverse)
      else if ← path.pathExists then
        return some (.file (← readContent (diskPath place)))
      else return none
    catch _ => return none

/-- The tree with the node at a place on disk. -/
def addNode (tree : FileTree) (place : List String) : IO FileTree := do
  match ← readNode readingDepth place with
  | some node => return tree.insert place node
  | none => return tree

/-- The tree with the ignore files of the directories around a place. -/
def addIgnoreFiles (tree : FileTree) (place : List String) : IO FileTree := do
  let mut tree := tree
  for n in List.range place.length do
    for name in [ownIgnoreName, gitIgnoreName] do
      tree ← addNode tree (place.take n ++ [name])
  return tree

/-- The files that a run looks at. The working directory is there even if it is empty. -/
def readFiles (directory : List String) (paths : List String) : IO FileTree := do
  let mut tree : FileTree := FileTree.insert (.directory []) directory (.directory [])
  for path in paths do
    let place := FileTree.placeOf directory path
    tree ← addIgnoreFiles tree place
    tree ← addNode tree place
  return tree

/-- The variables that a run looks at. -/
def readVariables : IO (List (String × String)) := do
  let mut found : List (String × String) := []
  for name in [Options.recordsVariable, Options.configVariable] do
    if let some value ← IO.getEnv name then found := (name, value) :: found
  return found

/-- The standard input as a text, if it is one. -/
def readInput : IO (Option String) := do
  let mut bytes := ByteArray.empty
  let stream ← IO.getStdin
  repeat
    let chunk ← stream.read 65536
    if chunk.isEmpty then break
    bytes := bytes ++ chunk
  return String.fromUTF8? bytes

/-- The line that shows how the program is called. -/
def usage : String := "Usage: [OPTIONS] [FIELD=VALUE]..."

/-- Prints an outcome and gives its exit code. -/
def report : Outcome → IO UInt32
  | .stopped stop => do
    match stop with
    | .help => IO.println usage
    | .misuse => IO.eprintln usage
    return stop.code.toUInt32
  | .answered code output errors => do
    IO.eprint errors
    IO.print output
    return code.toUInt32
  | .failed failure errors => do
    IO.eprint errors
    IO.eprintln ("Error: " ++ failure.message)
    return 2

/-- Runs the program with its arguments. -/
def execute (arguments : List String) : IO UInt32 := do
  let environment ← readVariables
  match Options.ofArguments arguments environment with
  | .error stop => report (.stopped stop)
  | .ok o =>
    let input ← if o.stdin then readInput else pure (some "")
    let current ← IO.currentDir
    let directory := FileTree.placeOf [] current.toString
    let files ← readFiles directory (neededPaths o input)
    report (runOptions ⟨files, .ignoring, directory, environment, input⟩ o)

end RecordQuery.CommandLine

/-- The entry point of the program. -/
def main (arguments : List String) : IO UInt32 := RecordQuery.CommandLine.execute arguments
