import Conformance.Files.Tree

/-!
# Walking a directory

A walk visits every file below a directory, through links as well. A link that leads to a directory
that is just being walked would go round in circles, so it ends the walk. So does a link that leads
nowhere, and a directory whose path cannot be followed because it has become too long.
-/

namespace Conformance

/-- Why a walk ended early. -/
inductive WalkError where
  /-- A link leads to a directory that is being walked. -/
  | loop (child ancestor : String)
  /-- A path could not be followed. -/
  | unreachable (path : String) (reason : FileError)
  deriving Repr, DecidableEq, Inhabited

/-- The text of the error. -/
def WalkError.message : WalkError → String
  | .loop child ancestor =>
    "File system loop found: " ++ child ++ " points to an ancestor " ++ ancestor
  | .unreachable path reason =>
    "IO error for operation on " ++ path ++ ": " ++ reason.message

/-- A directory that is being walked. -/
structure WalkPlace where
  /-- The names that lead to it from the root, none of them a link. -/
  names : List String
  /-- The path on which the walk came to it. -/
  path : String
  deriving Repr, DecidableEq, Inhabited

namespace FileTree

/-- The files below a directory as the names that lead to them, given the directories that are
being walked, the innermost first. Each directory on the way takes one of the `steps`. -/
def walkFrom (tree : FileTree) :
    Nat → WalkPlace → List WalkPlace → Node → Except WalkError (List (List String))
  | 0, _, _, _ => .ok []
  | steps + 1, place, outer, node => do
    let walking := place :: outer
    let found ← node.entries.mapM fun (name, child) => do
      let path := Path.join place.path name
      let inside (place : WalkPlace) (child : Node) : Except WalkError (List (List String)) := do
        return (← tree.walkFrom steps place walking child).map (name :: ·)
      match child with
      | .file _ => return [[name]]
      | .directory entries =>
        match tree.resolve path with
        | .error reason => throw (.unreachable path reason)
        | .ok _ => inside ⟨place.names ++ [name], path⟩ (.directory entries)
      | .link _ =>
        match tree.resolve path with
        | .error reason => throw (.unreachable path reason)
        | .ok (names, .directory entries) =>
          match walking.find? (·.names == names) with
          | some ancestor => throw (.loop path ancestor.path)
          | none => inside ⟨names, path⟩ (.directory entries)
        | .ok _ => return [[name]]
    return found.flatten

/-- The files below the directory at a path, in the order of their names. A walk never holds a
directory twice that it entered through a link, so the directories on its way are at most those of
the tree once for each of them. -/
def walk (tree : FileTree) (path : String) : Except WalkError (List (List String)) :=
  match tree.resolve path with
  | .error reason => .error (.unreachable path reason)
  | .ok (names, node) => do
    let count := tree.root.directoryCount + 1
    let found ← tree.walkFrom (count * count) ⟨names, path⟩ [] node
    return found.mergeSort fun first second => !Path.before second first

end FileTree

end Conformance
