import Conformance.Files.Tree

/-!
# Snapshots of files

A snapshot is a tree with the files of the machine that some paths lead to. Where a path goes
through a link, the snapshot holds the link and what it leads to. Links that lead nowhere stay so in
the snapshot.
-/

namespace Conformance.Snapshot

/-- The path of names below the root. -/
def pathOf (names : List String) : String :=
  "/" ++ Path.ofNames names

/-- A part of a path that no file has. -/
def nowhere : String := "\x00"

/-- What is at a name in a directory, links not followed. -/
def kindOf (names : List String) (name : String) : IO (Option IO.FS.Metadata) := do
  try
    let entry : IO.FS.DirEntry := ⟨← IO.FS.realPath (pathOf names), name⟩
    return some (← entry.path.symlinkMetadata)
  catch _ => return none

/-- The path that a link leads to in the end. A link into itself keeps its own path. -/
def targetOf (names : List String) : IO String := do
  try
    return (← IO.FS.realPath (pathOf names)).toString
  catch
    | .noFileOrDirectory .. => return pathOf [nowhere]
    | _ => return pathOf names

/-- The content of a file. A file beyond a size is not read. -/
def contentOf (names : List String) (size limit : Nat) : IO Content := do
  if limit < size then return .zeros size
  return .bytes (← IO.FS.readBinFile (pathOf names))

/-- The names of the entries of a directory. -/
def entriesOf (names : List String) : IO (List String) := do
  return (← (← IO.FS.realPath (pathOf names)).readDir).toList.map (·.fileName)

/-- A tree in the making. -/
structure Capture where
  /-- The tree so far. -/
  tree : FileTree
  /-- The directories of which everything has been entered, or is being entered. -/
  whole : List (List String)
  deriving Inhabited

namespace Capture

/-- Add a node unless there is one. -/
def enter (capture : Capture) (names : List String) (node : Node) : Capture :=
  if (capture.tree.root.find? names).isSome then capture
  else { capture with tree := { capture.tree with root := node.put names capture.tree.root } }

/-- Add what parts of a path lead to from a directory, and everything below that if `deep`. Files
beyond a size are not read. -/
partial def follow (limit : Nat) (deep : Bool) (capture : Capture) (names : List String) :
    List String → IO Capture
  | [] => do
    if !deep || capture.whole.contains names then return capture
    let mut capture := { capture with whole := names :: capture.whole }
    for name in ← entriesOf names do
      capture ← follow limit true capture names [name]
    return capture
  | part :: parts => do
    if part = "" ∨ part = "." then follow limit deep capture names parts
    else if part = ".." then follow limit deep capture names.dropLast parts
    else
      let place := names ++ [part]
      match ← kindOf names part with
      | none => return capture
      | some found =>
        match found.type with
        | .dir => follow limit deep (capture.enter place (.directory [])) place parts
        | .file =>
          return capture.enter place (.file (← contentOf place found.byteSize.toNat limit))
        | .symlink =>
          let target ← targetOf place
          let capture := capture.enter place (.link target)
          if target = pathOf place then return capture
          follow limit deep capture [] (Path.texts target ++ parts)
        | .other => return capture

/-- Add what a path leads to. -/
def add (capture : Capture) (limit : Nat) (deep : Bool) (path : String) : IO Capture := do
  if path.isEmpty || path.toList.contains '\x00' then return capture
  let origin := if Path.isAbsolute path then [] else capture.tree.start
  follow limit deep capture origin (Path.texts path)

/-- Nothing but the current directory. -/
def start : IO Capture := do
  let names := (Path.texts (← IO.currentDir).toString).filter (!·.isEmpty)
  return ⟨⟨(Node.directory []).put names (.directory []), names⟩, []⟩

end Capture

end Conformance.Snapshot
