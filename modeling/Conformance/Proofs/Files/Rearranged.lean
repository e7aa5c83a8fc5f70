import Conformance.Proofs.Files.Tree
import Conformance.Proofs.Files.Walk

/-!
# The order of directory entries

Two trees in which the same names lead to the same files, links and directories differ in nothing
but the order of the entries of their directories. Paths then lead to the same places, and a
directory holds the same files in both.
-/

namespace Conformance

/-- A node without the entries of a directory. -/
def Node.bare : Node → Node
  | .directory _ => .directory []
  | .file content => .file content
  | .link target => .link target

namespace Node

variable {node : Node} {content : Content} {target : String} {entries : List (String × Node)}

/-- Only the same file is bare as a file is. -/
theorem eq_file_of_bare (same : node.bare = (Node.file content).bare) : node = .file content := by
  cases node with
  | file content' => exact same
  | link target => cases same
  | directory entries => cases same

/-- Only the same link is bare as a link is. -/
theorem eq_link_of_bare (same : node.bare = (Node.link target).bare) : node = .link target := by
  cases node with
  | file content => cases same
  | link target' => exact same
  | directory entries => cases same

/-- Only directories are bare as a directory is. -/
theorem exists_directory_of_bare (same : node.bare = (Node.directory entries).bare) :
    ∃ entries', node = .directory entries' := by
  cases node with
  | file content => cases same
  | link target => cases same
  | directory entries' => exact ⟨entries', rfl⟩

end Node

namespace FileTree

variable {root node : Node} {links : Nat} {names parts rest there : List String}
  {path target name part : String} {content : Content} {entries : List (String × Node)}

/-! ## Steps on a path -/

/-- An empty part or a dot of a path stays in its directory. -/
theorem follow_stays (walked : root.find? names = some (.directory entries))
    (stays : part = "" ∨ part = ".") :
    follow root links names (part :: rest) = follow root links names rest := by
  rw [follow, walked]
  exact if_pos stays

/-- Two dots lead to the directory above. -/
theorem follow_climbs (walked : root.find? names = some (.directory entries)) :
    follow root links names (".." :: rest) = follow root links names.dropLast rest := by
  rw [follow, walked]
  simp [Node.isDirectory]

/-! ## Trees that are the same but for an order -/

/-- The trees are the same but for the order of the entries of their directories. -/
structure Rearranged (tree other : FileTree) : Prop where
  /-- They have the same starting directory. -/
  start : other.start = tree.start
  /-- Names lead to the same. -/
  same : ∀ names, (other.root.find? names).map Node.bare = (tree.root.find? names).map Node.bare

namespace Rearranged

variable {tree other : FileTree}

/-- Neither tree comes first. -/
theorem symm (rearranged : tree.Rearranged other) : other.Rearranged tree where
  start := rearranged.start.symm
  same names := (rearranged.same names).symm

/-- Names that lead to a node lead to one of the same kind in the other tree. -/
theorem exists_find? (rearranged : tree.Rearranged other)
    (found : tree.root.find? names = some node) :
    ∃ node', other.root.find? names = some node' ∧ node'.bare = node.bare := by
  have same := rearranged.same names
  rw [found, Option.map_some, Option.map_eq_some_iff] at same
  exact same

/-- Names that lead to a directory lead to a directory. -/
theorem find?_directory (rearranged : tree.Rearranged other)
    (found : tree.root.find? names = some (.directory entries)) :
    ∃ entries', other.root.find? names = some (.directory entries') := by
  obtain ⟨node, there, same⟩ := rearranged.exists_find? found
  obtain ⟨entries', rfl⟩ := Node.exists_directory_of_bare same
  exact ⟨entries', there⟩

/-- Entries of a directory are found under the same names. -/
theorem exists_lookup {entries' : List (String × Node)} (rearranged : tree.Rearranged other)
    (here : tree.root.find? names = some (.directory entries))
    (here' : other.root.find? names = some (.directory entries'))
    (inside : entries.lookup name = some node) :
    ∃ node', entries'.lookup name = some node' ∧ node'.bare = node.bare := by
  have found := (Node.find?_concat here name).trans inside
  have same := rearranged.exists_find? found
  rw [Node.find?_concat here'] at same
  exact same

/-- A path that goes on from some names does so in both trees. -/
theorem exists_entries (rearranged : tree.Rearranged other)
    (found : tree.root.find? names = some node) (directory : ¬(!node.isDirectory) = true) :
    ∃ entries entries', node = .directory entries ∧
      other.root.find? names = some (.directory entries') := by
  cases node with
  | file content => exact absurd rfl directory
  | link target => exact absurd rfl directory
  | directory entries =>
    obtain ⟨entries', there⟩ := rearranged.find?_directory found
    exact ⟨entries, entries', rfl, there⟩

/-- A path that is followed in one tree leads to the same place in the other. -/
theorem follow (rearranged : tree.Rearranged other)
    (followed : FileTree.follow tree.root links names parts = .ok (there, node)) :
    ∃ node', FileTree.follow other.root links names parts = .ok (there, node') ∧
      node'.bare = node.bare := by
  generalize same : tree.root = root at followed
  fun_induction FileTree.follow root links names parts with
  | case2 links names walked found =>
    subst same
    cases followed
    obtain ⟨node', found', kind⟩ := rearranged.exists_find? found
    rw [FileTree.follow, found']
    exact ⟨node', rfl, kind⟩
  | case4 links names walked found part rest directory stays ih =>
    subst same
    obtain ⟨entries, entries', rfl, found'⟩ := rearranged.exists_entries found directory
    rw [follow_stays found' stays]
    exact ih followed
  | case5 links names walked found rest directory stays ih =>
    subst same
    obtain ⟨entries, entries', rfl, found'⟩ := rearranged.exists_entries found directory
    rw [follow_climbs found']
    exact ih followed
  | case9 names walked found part rest directory moves climbs short held inside links origin ih =>
    subst same
    obtain ⟨entries, entries', rfl, found'⟩ := rearranged.exists_entries found directory
    obtain ⟨child, inside', kind⟩ := rearranged.exists_lookup found found' inside
    obtain rfl := Node.eq_link_of_bare kind
    have named : part ∉ ["", ".", ".."] := by simp_all
    rw [follow_cons _ found' named (Nat.le_of_not_lt short), inside']
    exact ih followed
  | case10 links names walked found part rest directory moves climbs short entry plain inside ih =>
    subst same
    obtain ⟨entries, entries', rfl, found'⟩ := rearranged.exists_entries found directory
    obtain ⟨child, inside', kind⟩ := rearranged.exists_lookup found found' inside
    have named : part ∉ ["", ".", ".."] := by simp_all
    rw [follow_cons _ found' named (Nat.le_of_not_lt short), inside']
    cases child with
    | file content => exact ih followed
    | link target => exact absurd (Node.eq_link_of_bare kind.symm) (plain target)
    | directory inner => exact ih followed
  | _ => cases followed

/-- A path leads to the same place in both trees. -/
theorem resolve (rearranged : tree.Rearranged other)
    (resolved : tree.resolve path = .ok (there, node)) :
    ∃ node', other.resolve path = .ok (there, node') ∧ node'.bare = node.bare := by
  unfold FileTree.resolve at resolved ⊢
  rw [rearranged.start]
  by_cases zeros : path.toList.contains '\x00' = true
  · rw [if_pos zeros] at resolved
    cases resolved
  rw [if_neg zeros] at resolved ⊢
  by_cases empty : path.isEmpty = true
  · rw [if_pos empty] at resolved
    cases resolved
  rw [if_neg empty] at resolved ⊢
  by_cases long : pathLimit ≤ path.utf8ByteSize
  · rw [if_pos long] at resolved
    cases resolved
  rw [if_neg long] at resolved ⊢
  exact rearranged.follow resolved

/-- A directory holds the same files in both trees. -/
theorem holds {entries' : List (String × Node)} (rearranged : tree.Rearranged other)
    (proper : tree.root.Proper) (here : tree.root.find? there = some (.directory entries))
    (here' : other.root.find? there = some (.directory entries'))
    (holds : tree.Holds path entries names) : other.Holds path entries' names := by
  induction holds generalizing there entries' with
  | file entry =>
    have inside := (proper.find here).lookup entry
    obtain ⟨child, inside', kind⟩ := rearranged.exists_lookup here here' inside
    obtain rfl := Node.eq_file_of_bare kind
    exact .file (Node.mem_of_lookup inside')
  | linkedFile entry leads =>
    have inside := (proper.find here).lookup entry
    obtain ⟨child, inside', kind⟩ := rearranged.exists_lookup here here' inside
    obtain rfl := Node.eq_link_of_bare kind
    obtain ⟨node, leads', kind'⟩ := rearranged.resolve leads
    obtain rfl := Node.eq_file_of_bare kind'
    exact .linkedFile (Node.mem_of_lookup inside') leads'
  | @directory path name entries inner names entry below ih =>
    have inside := (proper.find here).lookup entry
    obtain ⟨child, inside', kind⟩ := rearranged.exists_lookup here here' inside
    obtain ⟨inner', rfl⟩ := Node.exists_directory_of_bare kind
    have found := (Node.find?_concat here name).trans inside
    have found' := (Node.find?_concat here' name).trans inside'
    exact .directory (Node.mem_of_lookup inside') (ih found found')
  | linkedDirectory entry leads below ih =>
    have inside := (proper.find here).lookup entry
    obtain ⟨child, inside', kind⟩ := rearranged.exists_lookup here here' inside
    obtain rfl := Node.eq_link_of_bare kind
    obtain ⟨node, leads', kind'⟩ := rearranged.resolve leads
    obtain ⟨inner', rfl⟩ := Node.exists_directory_of_bare kind'
    have found := find?_of_resolve leads
    have found' := find?_of_resolve leads'
    exact .linkedDirectory (Node.mem_of_lookup inside') leads' (ih found found')

/-- Where a walk that has steps enough succeeds, one in the other tree does with any steps. -/
theorem walkFrom {steps : Nat} {place : WalkPlace} {outer : List WalkPlace}
    {entries' : List (String × Node)} {found : List (List String)}
    (rearranged : tree.Rearranged other) (proper : other.root.Proper)
    (here : tree.root.find? place.names = some (.directory entries))
    (here' : other.root.find? place.names = some (.directory entries'))
    (ready : tree.Ready steps place outer)
    (walked : tree.walkFrom steps place outer (.directory entries) = .ok found) (steps' : Nat) :
    ∃ found', other.walkFrom steps' place outer (.directory entries') = .ok found' := by
  induction steps generalizing place outer entries entries' found steps' with
  | zero => exact absurd ready.pos (Nat.lt_irrefl 0)
  | succ steps ih =>
    cases steps' with
    | zero => exact ⟨[], rfl⟩
    | succ steps' =>
      obtain ⟨results, visits, -⟩ := visits_of_walkFrom walked
      have each := exists_forall₂_iff.1 ⟨results, visits⟩
      have others : ∀ entry ∈ entries', ∃ result,
          other.Visits steps' place (place :: outer) entry result := by
        rintro ⟨name, child'⟩ member
        have inside' := (proper.find here').lookup member
        obtain ⟨child, inside, kind⟩ := rearranged.symm.exists_lookup here' here inside'
        obtain ⟨result, visited⟩ := each _ (Node.mem_of_lookup inside)
        cases visited with
        | file =>
          obtain rfl := Node.eq_file_of_bare kind.symm
          exact ⟨_, .file⟩
        | linkedFile leads =>
          obtain rfl := Node.eq_link_of_bare kind.symm
          obtain ⟨node, leads', kind'⟩ := rearranged.resolve leads
          obtain rfl := Node.eq_file_of_bare kind'
          exact ⟨_, .linkedFile leads'⟩
        | directory leads below =>
          obtain ⟨inner', rfl⟩ := Node.exists_directory_of_bare kind.symm
          obtain ⟨node, leads', -⟩ := rearranged.resolve leads
          have there := (Node.find?_concat here name).trans inside
          have there' := (Node.find?_concat here' name).trans inside'
          have deeper := ready.inside (Path.join place.path name) (Node.mem_directories there)
          obtain ⟨result, below'⟩ := ih there there' deeper below steps'
          exact ⟨_, .directory leads' below'⟩
        | linkedDirectory leads fresh below =>
          obtain rfl := Node.eq_link_of_bare kind.symm
          obtain ⟨node, leads', kind'⟩ := rearranged.resolve leads
          obtain ⟨inner', rfl⟩ := Node.exists_directory_of_bare kind'
          have there := find?_of_resolve leads
          have there' := find?_of_resolve leads'
          have jump := ready.jump (Path.join place.path name) (Node.mem_directories there) fresh
          obtain ⟨result, below'⟩ := ih there there' jump below steps'
          exact ⟨_, .linkedDirectory leads' fresh below'⟩
      obtain ⟨results', visits'⟩ := exists_forall₂_iff.2 others
      exact ⟨_, walkFrom_of_visits visits'⟩

/-- A directory that can be walked in one tree can be in the other. -/
theorem walk {found : List (List String)} (rearranged : tree.Rearranged other)
    (proper : other.root.Proper) (resolved : tree.resolve path = .ok (there, .directory entries))
    (walked : tree.walk path = .ok found) : ∃ found', other.walk path = .ok found' := by
  obtain ⟨node, resolved', kind⟩ := rearranged.resolve resolved
  obtain ⟨entries', rfl⟩ := Node.exists_directory_of_bare kind
  obtain ⟨listed, inside, -⟩ := (walk_eq_ok_iff resolved).1 walked
  have here := find?_of_resolve resolved
  have here' := find?_of_resolve resolved'
  have ready : tree.Ready tree.allSteps ⟨there, path⟩ [] :=
    ready_allSteps (Node.mem_directories here)
  obtain ⟨listed', inside'⟩ := rearranged.walkFrom proper here here' ready inside other.allSteps
  exact ⟨_, (walk_eq_ok_iff resolved').2 ⟨listed', inside', rfl⟩⟩

end Rearranged

end FileTree

end Conformance
