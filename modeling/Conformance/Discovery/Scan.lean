import Conformance.Discovery.FileSet
import Conformance.Discovery.Glob
import Conformance.Files.Walk
import Conformance.Log.Journal

/-!
# Finding the sources

The files of a file set are those below its directory that match an include pattern and no exclude
pattern, in the order of their names. The sources of a run are the files of its file sets, one set
after the other. The directory is looked at before the patterns are read, and the patterns are read
before the directory is walked.
-/

namespace Conformance

/-- Why the sources were not found. -/
inductive DiscoveryError where
  /-- The directory of a file set is none. -/
  | directoryNotFound (directory : String)
  /-- A pattern of a file set is none. -/
  | invalidPattern (pattern : String) (reason : Glob.Error)
  /-- The directory of a file set could not be walked. -/
  | walkFailed (directory : String) (reason : WalkError)
  deriving Repr, DecidableEq, Inhabited

namespace DiscoveryError

/-- The text of the error. -/
def message : DiscoveryError → String
  | .directoryNotFound directory => "Source directory not found: " ++ directory
  | .invalidPattern pattern reason =>
    "Invalid file set pattern '" ++ pattern ++ "': " ++ reason.message
  | .walkFailed directory reason => "Failed to walk '" ++ directory ++ "': " ++ reason.message

/-- The code of the error. -/
def code : DiscoveryError → Log.Code
  | .directoryNotFound _ => .directoryNotFound
  | .invalidPattern _ _ => .invalidPattern
  | .walkFailed _ _ => .walkFailed

end DiscoveryError

namespace FileSet

/-- Read patterns. The first one that is none is entered into the journal. -/
def readPatterns : List String → Log.Attempt DiscoveryError (List Glob)
  | [] => return []
  | pattern :: patterns => do
    match Glob.ofText pattern with
    | .ok glob => return glob :: (← readPatterns patterns)
    | .error reason =>
      let error := DiscoveryError.invalidPattern pattern reason
      Log.emit (.error error.code "Invalid file set pattern") [("pattern", pattern)]
      throw error

/-- A file belongs to a set with these patterns. -/
def selects (includes excludes : List Glob) (names : List String) : Bool :=
  let path := Path.ofNames names
  includes.any (·.accepts path) && !excludes.any (·.accepts path)

/-- The files of a set. -/
def scan (set : FileSet) (tree : FileTree) : Log.Attempt DiscoveryError (List String) := do
  if !tree.isDirectory set.directory then
    let error := DiscoveryError.directoryNotFound set.directory
    Log.emit (.error error.code "Source directory not found") [("directory", set.directory)]
    throw error
  let includes ← readPatterns set.includes
  let excludes ← readPatterns set.excludes
  match tree.walk set.directory with
  | .error reason => throw (.walkFailed set.directory reason)
  | .ok files =>
    let selected := files.filter (selects includes excludes)
    return selected.map fun names => Path.join set.directory (Path.ofNames names)

/-- The files of one set after the other. -/
def scanAll (tree : FileTree) : List FileSet → Log.Attempt DiscoveryError (List String)
  | [] => return []
  | set :: sets => do
    let files ← set.scan tree
    return files ++ (← scanAll tree sets)

/-- The sources of file sets. -/
def discover (sets : List FileSet) (tree : FileTree) :
    Log.Attempt DiscoveryError (List String) := do
  let files ← scanAll tree sets
  Log.emit (.success .discoveryCompleted "Source discovery completed")
    [("filesets", toString sets.length), ("sources", toString files.length)]
  return files

end FileSet

end Conformance
