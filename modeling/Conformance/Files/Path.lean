/-!
# Path texts

A path is a text whose parts are separated by slashes. It starts at the root if its first character
is a slash, and otherwise where it is looked at. Joining a path to a directory keeps both texts as
they are written.
-/

namespace Conformance.Path

/-- The parts of a path, also the empty ones beside its slashes. -/
def parts (path : List Char) : List (List Char) :=
  match path with
  | [] => [[]]
  | '/' :: rest => [] :: parts rest
  | c :: rest =>
    match parts rest with
    | [] => [[c]]
    | part :: others => (c :: part) :: others

/-- The parts of a path as texts. -/
def texts (path : String) : List String :=
  (parts path.toList).map String.ofList

/-- A path starts at the root. -/
def isAbsolute (path : String) : Bool :=
  path.toList.head? == some '/'

/-- A path looked at from a directory. -/
def join (directory path : String) : String :=
  if isAbsolute path then path
  else if directory.isEmpty || directory.toList.getLast? == some '/' then directory ++ path
  else directory ++ "/" ++ path

/-- Names below each other as a path. -/
def ofNames (names : List String) : String :=
  "/".intercalate names

/-- Names below each other come before others when the first one that differs does. -/
def before : List String → List String → Bool
  | [], [] => false
  | [], _ :: _ => true
  | _ :: _, [] => false
  | first :: firsts, second :: seconds =>
    first < second || (first == second && before firsts seconds)

end Conformance.Path
