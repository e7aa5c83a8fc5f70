import Conformance.Files.Path

/-!
# Trees of files

A tree holds files, directories and symbolic links below a root, and a directory that relative
paths start from. A path is followed part by part. An empty part or a single dot stays where it is,
two dots go to the parent, and every link on the way is followed, at most forty of them. Each part
has to start from a directory, so a slash at the end of a path asks for a directory too.
-/

namespace Conformance

/-- What a file holds. -/
inductive Content where
  /-- These bytes. -/
  | bytes (data : ByteArray)
  /-- A number of zero bytes. -/
  | zeros (size : Nat)
  deriving Inhabited

namespace Content

/-- The number of bytes. -/
def size : Content → Nat
  | .bytes data => data.size
  | .zeros size => size

/-- The bytes. -/
def data : Content → ByteArray
  | .bytes data => data
  | .zeros size => ⟨Array.replicate size 0⟩

end Content

/-- An entry of a directory, or the root. -/
inductive Node where
  /-- A file. -/
  | file (content : Content)
  /-- A symbolic link with the path that it holds. -/
  | link (target : String)
  /-- A directory with its entries. -/
  | directory (entries : List (String × Node))
  deriving Inhabited

namespace Node

/-- The entries of a directory. -/
def entries : Node → List (String × Node)
  | .directory entries => entries
  | _ => []

/-- The node is a directory. -/
def isDirectory : Node → Bool
  | .directory _ => true
  | _ => false

/-- The node that names lead to, links not followed. -/
def find? (node : Node) : List String → Option Node
  | [] => some node
  | name :: names =>
    match node.entries.lookup name with
    | some child => child.find? names
    | none => none

/-- The entries with the node of a name replaced, or added at the end. -/
def putEntry (name : String) (node : Node) : List (String × Node) → List (String × Node)
  | [] => [(name, node)]
  | (other, old) :: rest =>
    if other = name then (name, node) :: rest else (other, old) :: putEntry name node rest

/-- Put a node where names lead, with the directories on the way. -/
def put (added : Node) : List String → Node → Node
  | [], _ => added
  | name :: names, node =>
    let child := (node.entries.lookup name).getD (.directory [])
    .directory (putEntry name (added.put names child) node.entries)

mutual

/-- The number of directories. -/
def directoryCount : Node → Nat
  | .directory entries => entriesCount entries + 1
  | _ => 0

/-- The number of directories among entries and below them. -/
def entriesCount : List (String × Node) → Nat
  | [] => 0
  | (_, node) :: rest => node.directoryCount + entriesCount rest

end

end Node

/-- Why a path does not lead to what is wanted. -/
inductive FileError where
  /-- There is nothing. -/
  | notFound
  /-- Something on the way is no directory. -/
  | notADirectory
  /-- It is a directory. -/
  | isADirectory
  /-- The path or a part of it is too long. -/
  | nameTooLong
  /-- There are too many links on the way. -/
  | tooManyLinks
  /-- The path holds a character that no name may hold. -/
  | invalidName
  deriving Repr, DecidableEq, Inhabited

/-- The text of the error. -/
def FileError.message : FileError → String
  | .notFound => "No such file or directory (os error 2)"
  | .notADirectory => "Not a directory (os error 20)"
  | .isADirectory => "Is a directory (os error 21)"
  | .nameTooLong => "File name too long (os error 36)"
  | .tooManyLinks => "Too many levels of symbolic links (os error 40)"
  | .invalidName => "file name contained an unexpected NUL byte"

/-- A tree of files and the directory that relative paths start from. -/
structure FileTree where
  /-- The root. -/
  root : Node
  /-- The names that lead from the root to the starting directory. -/
  start : List String
  deriving Inhabited

namespace FileTree

/-- The path of the starting directory. -/
def startPath (tree : FileTree) : String :=
  "/" ++ Path.ofNames tree.start

/-- Put a node where names lead from the starting directory. -/
def put (tree : FileTree) (names : List String) (node : Node) : FileTree :=
  { tree with root := node.put (tree.start ++ names) tree.root }

/-- A path has fewer bytes than this. -/
def pathLimit : Nat := 4096

/-- A name has at most this many bytes. -/
def nameLimit : Nat := 255

/-- So many links are followed on the way of one path. -/
def linkLimit : Nat := 40

/-- Follow parts of a path from a directory. The answer is the names that lead from the root to the
node, none of them a link, and the node. -/
def follow (root : Node) (links : Nat) (names : List String) (parts : List String) :
    Except FileError (List String × Node) :=
  match root.find? names with
  | none => .error .notFound
  | some node =>
    match parts with
    | [] => .ok (names, node)
    | part :: rest =>
      if !node.isDirectory then .error .notADirectory
      else if part = "" ∨ part = "." then follow root links names rest
      else if part = ".." then follow root links names.dropLast rest
      else if nameLimit < part.utf8ByteSize then .error .nameTooLong
      else
        match node.entries.lookup part with
        | none => .error .notFound
        | some (.link target) =>
          match links with
          | 0 => .error .tooManyLinks
          | links + 1 =>
            let origin := if Path.isAbsolute target then [] else names
            follow root links origin (Path.texts target ++ rest)
        | some _ => follow root links (names ++ [part]) rest
termination_by (links, parts.length)

/-- Follow a path, links included. -/
def resolve (tree : FileTree) (path : String) : Except FileError (List String × Node) :=
  if path.toList.contains '\x00' then .error .invalidName
  else if path.isEmpty then .error .notFound
  else if pathLimit ≤ path.utf8ByteSize then .error .nameTooLong
  else
    follow tree.root linkLimit (if Path.isAbsolute path then [] else tree.start)
      (Path.texts path)

/-- A path leads to a directory. -/
def isDirectory (tree : FileTree) (path : String) : Bool :=
  match tree.resolve path with
  | .ok (_, node) => node.isDirectory
  | .error _ => false

/-- The bytes of a file. -/
def read (tree : FileTree) (path : String) : Except FileError ByteArray := do
  let (_, node) ← tree.resolve path
  match node with
  | .file content => return content.data
  | _ => throw .isADirectory

end FileTree

end Conformance
