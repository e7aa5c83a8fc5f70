/-!
# File sets

A file set is a directory with patterns for the files below it: a file belongs to the set when it
matches some include pattern and no exclude pattern. A set that is built up step by step includes
everything until its first include pattern is given.
-/

namespace Conformance

/-- A directory and the patterns of the files below it. -/
structure FileSet where
  /-- The directory. -/
  directory : String
  /-- The patterns of files that belong to the set. -/
  includes : List String
  /-- The patterns of files that do not belong to it after all. -/
  excludes : List String
  deriving Repr, DecidableEq, Inhabited

namespace FileSet

/-- The include patterns of a set that names none: every file. -/
def everything : List String := ["**/*"]

/-- All files below a directory. -/
def ofDirectory (directory : String) : FileSet := ⟨directory, everything, []⟩

/-- The set with one more include pattern. The first one takes the place of the pattern for
everything. -/
def including (set : FileSet) (pattern : String) : FileSet :=
  let includes := if set.includes = everything then [] else set.includes
  { set with includes := includes ++ [pattern] }

/-- The set with one more exclude pattern. -/
def excluding (set : FileSet) (pattern : String) : FileSet :=
  { set with excludes := set.excludes ++ [pattern] }

end FileSet

end Conformance
