import Mathlib.Data.List.Perm.Subperm
import Conformance.Files.Tree
import Conformance.Proofs.Files.Order

/-!
# Directories of a tree

A tree as file systems keep it has no two entries of one name in a directory, and each entry has a
name that is one part of a path. Names then lead to one node. A path that can be followed leads to a
node of the tree, and to what its last link stands for, never to a link.
-/

namespace Conformance

namespace Node

variable {node child : Node} {name : String} {names : List String} {entries : List (String × Node)}

/-! ## Proper trees -/

/-- Every directory has entries with names, no two of them with the same. -/
inductive Proper : Node → Prop
  /-- A file. -/
  | file (content : Content) : Proper (.file content)
  /-- A link. -/
  | link (target : String) : Proper (.link target)
  /-- A directory. -/
  | directory {entries : List (String × Node)} (once : (entries.map Prod.fst).Nodup)
    (named : ∀ entry ∈ entries, Path.IsName entry.1) (each : ∀ entry ∈ entries, Proper entry.2) :
    Proper (.directory entries)

/-- A node found under a name is that of an entry. -/
theorem mem_of_lookup (found : entries.lookup name = some child) : (name, child) ∈ entries := by
  obtain ⟨before, after, rfl, -⟩ := List.lookup_eq_some_iff.1 found
  simp

/-- The node of an entry is found under its name if no other entry has the name. -/
theorem lookup_of_mem (once : (entries.map Prod.fst).Nodup) (member : (name, child) ∈ entries) :
    entries.lookup name = some child := by
  obtain ⟨before, after, rfl⟩ := List.append_of_mem member
  refine List.lookup_eq_some_iff.2 ⟨before, after, rfl, fun entry found => ?_⟩
  rw [List.map_append, List.map_cons] at once
  have apart := (List.nodup_append.1 once).2.2 entry.1 (List.mem_map_of_mem found) name
    List.mem_cons_self
  simpa using apart.symm

/-- The node of an entry of a proper directory is found under its name. -/
theorem Proper.lookup (proper : (Node.directory entries).Proper)
    (member : (name, child) ∈ entries) : entries.lookup name = some child := by
  cases proper with
  | directory once named each => exact lookup_of_mem once member

/-- What names lead to in a proper tree is proper. -/
theorem Proper.find (proper : node.Proper) (found : node.find? names = some child) :
    child.Proper := by
  induction names generalizing node with
  | nil => exact Option.some.inj found ▸ proper
  | cons name names ih =>
    simp only [find?] at found
    cases inside : node.entries.lookup name with
    | none => simp [inside] at found
    | some next =>
      rw [inside] at found
      cases proper with
      | file content => cases inside
      | link target => cases inside
      | directory once named each => exact ih (each _ (mem_of_lookup inside)) found

/-- Names that follow others lead on from where those lead. -/
theorem find?_append (names rest : List String) :
    node.find? (names ++ rest) = (node.find? names).bind (·.find? rest) := by
  induction names generalizing node with
  | nil => rfl
  | cons name names ih =>
    simp only [List.cons_append, find?]
    cases node.entries.lookup name with
    | none => rfl
    | some child => exact ih

/-- From a directory, a name leads to the node of its entry. -/
theorem find?_concat (found : node.find? names = some (.directory entries)) (name : String) :
    node.find? (names ++ [name]) = entries.lookup name := by
  rw [find?_append, found, Option.bind_some]
  simp only [find?, Node.entries]
  cases entries.lookup name with
  | none => rfl
  | some child => rfl

/-! ## Counting directories -/

mutual

/-- The names that lead to each directory. -/
def directories : Node → List (List String)
  | .directory entries => [] :: directoriesIn entries
  | _ => []

/-- The names that lead to each directory among entries and below them. -/
def directoriesIn : List (String × Node) → List (List String)
  | [] => []
  | (name, node) :: rest => node.directories.map (name :: ·) ++ directoriesIn rest

end

mutual

/-- The directories are as many as they are counted to be. -/
theorem length_directories : ∀ node : Node, node.directories.length = node.directoryCount
  | .directory entries => by simp [directories, directoryCount, length_directoriesIn entries]
  | .file _ => rfl
  | .link _ => rfl

/-- So are those of entries. -/
theorem length_directoriesIn :
    ∀ entries : List (String × Node), (directoriesIn entries).length = entriesCount entries
  | [] => rfl
  | (_, node) :: rest => by
    simp [directoriesIn, entriesCount, length_directories node, length_directoriesIn rest]

end

/-- The directories of an entry are among those of all entries. -/
theorem mem_directoriesIn (member : (name, child) ∈ entries) (found : names ∈ child.directories) :
    name :: names ∈ directoriesIn entries := by
  induction entries with
  | nil => cases member
  | cons entry rest ih =>
    rcases List.mem_cons.1 member with rfl | further
    · exact List.mem_append_left _ (List.mem_map_of_mem found)
    · exact List.mem_append_right _ (ih further)

/-- Names that lead to a directory are those of one. -/
theorem mem_directories (found : node.find? names = some (.directory entries)) :
    names ∈ node.directories := by
  induction names generalizing node with
  | nil =>
    cases found
    exact List.mem_cons_self
  | cons name names ih =>
    simp only [find?] at found
    cases inside : node.entries.lookup name with
    | none => simp [inside] at found
    | some next =>
      rw [inside] at found
      cases node with
      | file content => cases inside
      | link target => cases inside
      | directory entries =>
        exact List.mem_cons_of_mem _ (mem_directoriesIn (mem_of_lookup inside) (ih found))

end Node

namespace FileTree

variable {root node : Node} {links : Nat} {names parts there : List String}

/-! ## Where paths lead -/

/-- Names from which a path goes on lead to a directory, and those above it to one too. -/
theorem parent_is_directory {names : List String} (walked : root.find? names = some node)
    (directory : node.isDirectory = true) :
    ∃ parent, root.find? names.dropLast = some parent ∧ parent.isDirectory = true := by
  rcases List.eq_nil_or_concat' names with rfl | ⟨above, name, rfl⟩
  · exact ⟨node, walked, directory⟩
  · rw [Node.find?_append, Option.bind_eq_some_iff] at walked
    obtain ⟨parent, there, inside⟩ := walked
    rw [List.dropLast_concat]
    cases parent with
    | directory entries => exact ⟨_, there, rfl⟩
    | file content => cases inside
    | link target => cases inside

/-- A path that can be followed leads to a node of the tree. -/
theorem find?_of_follow (followed : follow root links names parts = .ok (there, node)) :
    root.find? there = some node := by
  fun_induction follow root links names parts with
  | case2 links names node' found =>
    cases followed
    exact found
  | case4 links names walked found part rest directory stays ih => exact ih followed
  | case5 links names walked found rest directory stays ih => exact ih followed
  | case9 names walked found part rest _ _ _ _ target inside links origin ih => exact ih followed
  | case10 links names walked found part rest _ _ _ _ entry _ inside ih => exact ih followed
  | _ => cases followed

/-- A path that can be followed leads to no link, unless it is empty and starts from one. -/
theorem ne_link_of_follow (followed : follow root links names parts = .ok (there, node))
    (settled : parts = [] → ∀ target, root.find? names ≠ some (.link target)) (target : String) :
    node ≠ .link target := by
  fun_induction follow root links names parts with
  | case2 links names node' found =>
    cases followed
    exact fun isLink => settled rfl target (isLink ▸ found)
  | case4 links names walked found part rest directory stays ih =>
    refine ih followed fun _ target link => ?_
    rw [found] at link
    cases link
    exact directory rfl
  | case5 links names walked found rest directory stays ih =>
    refine ih followed fun _ target link => ?_
    obtain ⟨parent, above, isDirectory⟩ := parent_is_directory found (by simpa using directory)
    rw [above] at link
    cases link
    cases isDirectory
  | case9 names walked found part rest _ _ _ _ held inside links origin ih =>
    have more : Path.texts held ≠ [] := Path.texts_ne_nil held
    exact ih followed fun empty => absurd (List.append_eq_nil_iff.1 empty).1 more
  | case10 links names walked found part rest _ _ _ _ entry plain inside ih =>
    refine ih followed fun _ target link => ?_
    cases walked with
    | directory entries =>
      have here := (Node.find?_concat found part).trans inside
      rw [here] at link
      exact plain target (Option.some.inj link)
    | file content => cases inside
    | link target => cases inside
  | _ => cases followed

variable {tree : FileTree} {path : String}

/-- A path is followed part by part from the root or from the starting directory. -/
theorem follow_of_resolve (resolved : tree.resolve path = .ok (there, node)) :
    ∃ origin, follow tree.root linkLimit origin (Path.texts path) = .ok (there, node) := by
  unfold resolve at resolved
  split at resolved
  · cases resolved
  split at resolved
  · cases resolved
  split at resolved
  · cases resolved
  exact ⟨_, resolved⟩

/-- What a path leads to is a node of the tree. -/
theorem find?_of_resolve (resolved : tree.resolve path = .ok (there, node)) :
    tree.root.find? there = some node := by
  obtain ⟨origin, followed⟩ := follow_of_resolve resolved
  exact find?_of_follow followed

/-- What a path leads to is a file or a directory. -/
theorem file_or_directory (resolved : tree.resolve path = .ok (there, node)) :
    (∃ content, node = .file content) ∨ ∃ entries, node = .directory entries := by
  obtain ⟨origin, followed⟩ := follow_of_resolve resolved
  have noLink := ne_link_of_follow followed fun empty => absurd empty (Path.texts_ne_nil path)
  cases node with
  | file content => exact .inl ⟨content, rfl⟩
  | directory entries => exact .inr ⟨entries, rfl⟩
  | link target => exact absurd rfl (noLink target)

/-- A path to a directory leads to its entries. -/
theorem exists_of_isDirectory (directory : tree.isDirectory path = true) :
    ∃ there entries, tree.resolve path = .ok (there, .directory entries) := by
  unfold isDirectory at directory
  cases resolved : tree.resolve path with
  | error reason =>
    rw [resolved] at directory
    cases directory
  | ok answer =>
    obtain ⟨there, node⟩ := answer
    rw [resolved] at directory
    cases node with
    | directory entries => exact ⟨there, entries, rfl⟩
    | file content => cases directory
    | link target => cases directory

/-- Nothing but a path leads anywhere. -/
theorem ne_empty_of_resolve (resolved : tree.resolve path = .ok (there, node)) : path ≠ "" := by
  rintro rfl
  cases resolved

end FileTree

end Conformance
