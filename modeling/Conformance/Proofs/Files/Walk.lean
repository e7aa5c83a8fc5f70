import Mathlib.Data.List.Nodup
import Mathlib.Data.List.ProdSigma
import Mathlib.Data.List.Sort
import Conformance.Files.Walk
import Conformance.Proofs.Files.Directories
import Conformance.Proofs.Log.Outcome

/-!
# What a walk finds

A walk that succeeds finds each file below its directory once, through directories and links, and
answers them in the order of their names. It never runs out of steps. The directories that are being
walked are told apart by themselves and by where the walk came to them: at the directory that it
started from, or at the one that the last link led to.
-/

namespace Conformance.FileTree

variable {tree : FileTree} {root node child : Node} {path name : String} {names : List String}
  {entries : List (String × Node)} {place : WalkPlace} {outer : List WalkPlace} {steps : Nat}

/-! ## Files below a directory -/

/-- Names lead from the entries of a directory to a file, through directories and links. The path is
the one on which the directory was come to. -/
inductive Holds (tree : FileTree) : String → List (String × Node) → List String → Prop
  /-- A file. -/
  | file {path name : String} {entries : List (String × Node)} {content : Content}
    (entry : (name, .file content) ∈ entries) : Holds tree path entries [name]
  /-- A link to a file. -/
  | linkedFile {path name target : String} {entries : List (String × Node)} {there : List String}
    {content : Content} (entry : (name, .link target) ∈ entries)
    (leads : tree.resolve (Path.join path name) = .ok (there, .file content)) :
    Holds tree path entries [name]
  /-- A file below a directory. -/
  | directory {path name : String} {entries inner : List (String × Node)} {names : List String}
    (entry : (name, .directory inner) ∈ entries)
    (below : Holds tree (Path.join path name) inner names) : Holds tree path entries (name :: names)
  /-- A file below a directory that a link leads to. -/
  | linkedDirectory {path name target : String} {entries inner : List (String × Node)}
    {there names : List String} (entry : (name, .link target) ∈ entries)
    (leads : tree.resolve (Path.join path name) = .ok (there, .directory inner))
    (below : Holds tree (Path.join path name) inner names) : Holds tree path entries (name :: names)

/-- In a proper tree each name on the way to a file is one. -/
theorem Holds.named (holds : tree.Holds path entries names) (proper : tree.root.Proper)
    (here : (Node.directory entries).Proper) : ∀ name ∈ names, Path.IsName name := by
  induction holds with
  | file entry =>
    cases here with
    | directory once named each => exact List.forall_mem_singleton.2 (named _ entry)
  | linkedFile entry leads =>
    cases here with
    | directory once named each => exact List.forall_mem_singleton.2 (named _ entry)
  | directory entry below ih =>
    cases here with
    | directory once named each =>
      exact List.forall_mem_cons.2 ⟨named _ entry, ih (each _ entry)⟩
  | linkedDirectory entry leads below ih =>
    cases here with
    | directory once named each =>
      exact List.forall_mem_cons.2 ⟨named _ entry, ih (proper.find (find?_of_resolve leads))⟩

/-- The first name on the way to a file is that of an entry. -/
theorem Holds.exists_cons (holds : tree.Holds path entries names) :
    ∃ name ∈ entries.map Prod.fst, ∃ rest, names = name :: rest := by
  cases holds with
  | file entry => exact ⟨_, List.mem_map_of_mem entry, _, rfl⟩
  | linkedFile entry leads => exact ⟨_, List.mem_map_of_mem entry, _, rfl⟩
  | directory entry below => exact ⟨_, List.mem_map_of_mem entry, _, rfl⟩
  | linkedDirectory entry leads below => exact ⟨_, List.mem_map_of_mem entry, _, rfl⟩

/-- More entries hold no fewer files. -/
theorem Holds.mono {others : List (String × Node)} (holds : tree.Holds path entries names)
    (more : entries ⊆ others) : tree.Holds path others names := by
  cases holds with
  | file entry => exact .file (more entry)
  | linkedFile entry leads => exact .linkedFile (more entry) leads
  | directory entry below => exact .directory (more entry) below
  | linkedDirectory entry leads below => exact .linkedDirectory (more entry) leads below

/-- A file is held by one of the entries. -/
theorem Holds.exists_entry (holds : tree.Holds path entries names) :
    ∃ entry ∈ entries, tree.Holds path [entry] names := by
  cases holds with
  | file entry => exact ⟨_, entry, .file List.mem_cons_self⟩
  | linkedFile entry leads => exact ⟨_, entry, .linkedFile List.mem_cons_self leads⟩
  | directory entry below => exact ⟨_, entry, .directory List.mem_cons_self below⟩
  | linkedDirectory entry leads below =>
    exact ⟨_, entry, .linkedDirectory List.mem_cons_self leads below⟩

/-- What the first entry holds and what the others do. -/
theorem holds_cons_iff {entry : String × Node} :
    tree.Holds path (entry :: entries) names ↔
      tree.Holds path [entry] names ∨ tree.Holds path entries names := by
  constructor
  · intro holds
    obtain ⟨other, member, alone⟩ := holds.exists_entry
    rcases List.mem_cons.1 member with rfl | further
    · exact .inl alone
    · exact .inr (alone.mono (List.cons_subset.2 ⟨further, List.nil_subset _⟩))
  · rintro (first | further)
    · exact first.mono (List.cons_subset.2 ⟨List.mem_cons_self, List.nil_subset _⟩)
    · exact further.mono (List.subset_cons_self _ _)

/-- An entry that is a file holds itself. -/
theorem holds_file_iff {content : Content} :
    tree.Holds path [(name, .file content)] names ↔ names = [name] := by
  constructor
  · intro holds
    cases holds with
    | file entry =>
      cases List.mem_singleton.1 entry
      rfl
    | linkedFile entry leads => cases List.mem_singleton.1 entry
    | directory entry below => cases List.mem_singleton.1 entry
    | linkedDirectory entry leads below => cases List.mem_singleton.1 entry
  · rintro rfl
    exact .file List.mem_cons_self

/-- An entry that is a directory holds what its entries do. -/
theorem holds_directory_iff {inner : List (String × Node)} :
    tree.Holds path [(name, .directory inner)] names ↔
      ∃ rest, tree.Holds (Path.join path name) inner rest ∧ name :: rest = names := by
  constructor
  · intro holds
    cases holds with
    | file entry => cases List.mem_singleton.1 entry
    | linkedFile entry leads => cases List.mem_singleton.1 entry
    | directory entry below =>
      cases List.mem_singleton.1 entry
      exact ⟨_, below, rfl⟩
    | linkedDirectory entry leads below => cases List.mem_singleton.1 entry
  · rintro ⟨rest, below, rfl⟩
    exact .directory List.mem_cons_self below

/-- A link holds what it leads to. -/
theorem holds_link_iff {target : String} {there : List String}
    (leads : tree.resolve (Path.join path name) = .ok (there, child)) :
    tree.Holds path [(name, .link target)] names ↔ tree.Holds path [(name, child)] names := by
  constructor
  · intro holds
    cases holds with
    | file entry => cases List.mem_singleton.1 entry
    | linkedFile entry again =>
      cases List.mem_singleton.1 entry
      cases leads.symm.trans again
      exact .file List.mem_cons_self
    | directory entry below => cases List.mem_singleton.1 entry
    | linkedDirectory entry again below =>
      cases List.mem_singleton.1 entry
      cases leads.symm.trans again
      exact .directory List.mem_cons_self below
  · intro holds
    rcases file_or_directory leads with ⟨content, rfl⟩ | ⟨inner, rfl⟩
    · rw [holds_file_iff.1 holds]
      exact .linkedFile List.mem_cons_self leads
    · obtain ⟨rest, below, rfl⟩ := holds_directory_iff.1 holds
      exact .linkedDirectory List.mem_cons_self leads below

/-- These are the files below a directory, each of them once. -/
structure Lists (tree : FileTree) (path : String) (entries : List (String × Node))
    (found : List (List String)) : Prop where
  /-- They are the files below it. -/
  mem_iff : ∀ names, names ∈ found ↔ tree.Holds path entries names
  /-- None of them stands twice. -/
  nodup : found.Nodup

namespace Lists

variable {found further : List (List String)} {entry : String × Node}

/-- Without entries there are no files. -/
theorem nil : tree.Lists path [] [] where
  mem_iff names := by
    refine ⟨nofun, fun holds => ?_⟩
    obtain ⟨name, member, -⟩ := holds.exists_cons
    cases member
  nodup := List.nodup_nil

/-- The files of an entry and those of others with other names. -/
theorem cons (first : tree.Lists path [entry] found) (rest : tree.Lists path entries further)
    (apart : entry.1 ∉ entries.map Prod.fst) :
    tree.Lists path (entry :: entries) (found ++ further) where
  mem_iff names := by
    rw [List.mem_append]
    exact (or_congr (first.mem_iff names) (rest.mem_iff names)).trans holds_cons_iff.symm
  nodup := by
    refine List.nodup_append.2 ⟨first.nodup, rest.nodup, ?_⟩
    rintro names one _ other rfl
    obtain ⟨name, same, tail, rfl⟩ := ((first.mem_iff names).1 one).exists_cons
    obtain ⟨_, member, _, again⟩ := ((rest.mem_iff _).1 other).exists_cons
    cases again
    exact apart (List.mem_singleton.1 same ▸ member)

/-- The only file of an entry. -/
theorem single (alone : ∀ names, tree.Holds path [(name, child)] names ↔ names = [name]) :
    tree.Lists path [(name, child)] [[name]] where
  mem_iff names := List.mem_singleton.trans (alone names).symm
  nodup := List.nodup_singleton _

/-- The files of an entry that has those below a directory. -/
theorem below {inner : List (String × Node)}
    (all : ∀ names, tree.Holds path [(name, child)] names ↔
      ∃ rest, tree.Holds (Path.join path name) inner rest ∧ name :: rest = names)
    (listed : tree.Lists (Path.join path name) inner found) :
    tree.Lists path [(name, child)] (found.map (name :: ·)) where
  mem_iff names := by
    rw [List.mem_map, all]
    exact exists_congr fun rest => and_congr_left' (listed.mem_iff rest)
  nodup := listed.nodup.map List.cons_injective

/-- The files of entries with different names are those of each of them. -/
theorem flatten {results : List (List (List String))}
    (each : List.Forall₂ (fun entry result => tree.Lists path [entry] result) entries results)
    (once : (entries.map Prod.fst).Nodup) : tree.Lists path entries results.flatten := by
  induction each with
  | nil => exact .nil
  | cons first rest ih =>
    obtain ⟨apart, further⟩ := List.nodup_cons.1 once
    exact first.cons (ih further) apart

end Lists

/-! ## Directories that are being walked -/

/-- The directories that are being walked, the innermost first and apart from the others, each with
the directory at which the walk last came to it from elsewhere. -/
structure Trail (root : Node) (entered here : List String)
    (outer : List (List String × List String)) : Prop where
  /-- No directory is walked twice from where the walk came to it. -/
  distinct : ((entered, here) :: outer).Nodup
  /-- All of them are directories of the tree. -/
  directories : ∀ pair ∈ (entered, here) :: outer,
    pair.1 ∈ root.directories ∧ pair.2 ∈ root.directories
  /-- Where the walk came to a directory from elsewhere is being walked. -/
  walked : ∀ pair ∈ (entered, here) :: outer, pair.1 ∈ here :: outer.map Prod.snd
  /-- The innermost directory lies deepest below where the walk came to it. -/
  innermost : ∀ pair ∈ (entered, here) :: outer, pair.1 = entered → pair.2.length ≤ here.length

namespace Trail

variable {entered here there : List String} {trail : List (List String × List String)}

/-- A walk starts at a directory. -/
theorem start (found : here ∈ root.directories) : Trail root here here [] where
  distinct := List.nodup_singleton _
  directories := List.forall_mem_singleton.2 ⟨found, found⟩
  walked := List.forall_mem_singleton.2 List.mem_cons_self
  innermost := List.forall_mem_singleton.2 fun _ => le_rfl

/-- It goes on to a directory inside. -/
theorem inside (walking : Trail root entered here trail)
    (found : here ++ [name] ∈ root.directories) :
    Trail root entered (here ++ [name]) ((entered, here) :: trail) where
  distinct := by
    refine List.nodup_cons.2 ⟨fun again => ?_, walking.distinct⟩
    have shorter := walking.innermost _ again rfl
    simp at shorter
  directories := by
    refine List.forall_mem_cons.2 ⟨⟨?_, found⟩, walking.directories⟩
    exact (walking.directories _ List.mem_cons_self).1
  walked := by
    refine List.forall_mem_cons.2 ⟨?_, fun pair before => ?_⟩
    · exact List.mem_cons_of_mem _ (walking.walked (entered, here) List.mem_cons_self)
    · exact List.mem_cons_of_mem _ (walking.walked pair before)
  innermost := by
    refine List.forall_mem_cons.2 ⟨fun _ => le_rfl, fun pair before same => ?_⟩
    have deeper := walking.innermost pair before same
    rw [List.length_append]
    omega

/-- Or a link leads it to a directory that is not being walked. -/
theorem jump (walking : Trail root entered here trail) (found : there ∈ root.directories)
    (fresh : there ∉ here :: trail.map Prod.snd) :
    Trail root there there ((entered, here) :: trail) where
  distinct := by
    refine List.nodup_cons.2 ⟨fun again => fresh ?_, walking.distinct⟩
    exact List.mem_map_of_mem (f := Prod.snd) again
  directories := List.forall_mem_cons.2 ⟨⟨found, found⟩, walking.directories⟩
  walked := by
    refine List.forall_mem_cons.2 ⟨List.mem_cons_self, fun pair before => ?_⟩
    exact List.mem_cons_of_mem _ (walking.walked pair before)
  innermost := by
    refine List.forall_mem_cons.2 ⟨fun _ => le_rfl, fun pair before same => ?_⟩
    exact absurd (same ▸ walking.walked pair before) fresh

/-- No more directories are being walked than there are, once for each of them. -/
theorem length_lt (walking : Trail root entered here trail) :
    trail.length < root.directoryCount * root.directoryCount := by
  have within : (entered, here) :: trail ⊆ root.directories ×ˢ root.directories :=
    fun pair found => List.mem_product.2 (walking.directories pair found)
  have most := (List.subperm_of_subset walking.distinct within).length_le
  rwa [List.length_product, Node.length_directories, List.length_cons] at most

end Trail

/-- A walk at a place has enough steps left for all that is to come. The steps and the directories
around the place are as many as all directories, once for each of them. -/
def Ready (tree : FileTree) (steps : Nat) (place : WalkPlace) (outer : List WalkPlace) : Prop :=
  ∃ entered trail, Trail tree.root entered place.names trail ∧
    outer.map WalkPlace.names = trail.map Prod.snd ∧
    tree.root.directoryCount * tree.root.directoryCount ≤ steps + trail.length

namespace Ready

variable {there : List String}

/-- A walk starts at a directory with steps for all directories, once for each of them. -/
theorem start (found : there ∈ tree.root.directories)
    (room : tree.root.directoryCount * tree.root.directoryCount ≤ steps) :
    tree.Ready steps ⟨there, path⟩ [] :=
  ⟨there, [], .start found, rfl, room⟩

/-- Some step is left. -/
theorem pos (ready : tree.Ready steps place outer) : 0 < steps := by
  obtain ⟨entered, trail, walking, -, room⟩ := ready
  have fewer := walking.length_lt
  omega

/-- Walking a directory inside takes a step. -/
theorem inside (ready : tree.Ready (steps + 1) place outer) (path : String)
    (found : place.names ++ [name] ∈ tree.root.directories) :
    tree.Ready steps ⟨place.names ++ [name], path⟩ (place :: outer) := by
  obtain ⟨entered, trail, walking, tracked, room⟩ := ready
  refine ⟨entered, (entered, place.names) :: trail, walking.inside found, ?_, ?_⟩
  · rw [List.map_cons, List.map_cons, tracked]
  · rw [List.length_cons]
    omega

/-- So does walking a directory that a link leads to. -/
theorem jump (ready : tree.Ready (steps + 1) place outer) (path : String)
    (found : there ∈ tree.root.directories)
    (fresh : there ∉ (place :: outer).map WalkPlace.names) :
    tree.Ready steps ⟨there, path⟩ (place :: outer) := by
  obtain ⟨entered, trail, walking, tracked, room⟩ := ready
  rw [List.map_cons, tracked] at fresh
  refine ⟨there, (entered, place.names) :: trail, walking.jump found fresh, ?_, ?_⟩
  · rw [List.map_cons, List.map_cons, tracked]
  · rw [List.length_cons]
    omega

end Ready

/-! ## One step of a walk -/

/-- What a walk finds at an entry of the innermost of the directories being walked. -/
inductive Visits (tree : FileTree) (steps : Nat) (place : WalkPlace) (walking : List WalkPlace) :
    String × Node → List (List String) → Prop
  /-- The file itself. -/
  | file {name : String} {content : Content} :
    Visits tree steps place walking (name, .file content) [[name]]
  /-- The file that a link leads to. -/
  | linkedFile {name target : String} {there : List String} {content : Content}
    (leads : tree.resolve (Path.join place.path name) = .ok (there, .file content)) :
    Visits tree steps place walking (name, .link target) [[name]]
  /-- What the walk of a directory finds whose path can be followed. -/
  | directory {name : String} {inner : List (String × Node)} {found : List (List String)}
    {answer : List String × Node} (leads : tree.resolve (Path.join place.path name) = .ok answer)
    (walked : tree.walkFrom steps ⟨place.names ++ [name], Path.join place.path name⟩ walking
      (.directory inner) = .ok found) :
    Visits tree steps place walking (name, .directory inner) (found.map (name :: ·))
  /-- What the walk of a directory finds that a link leads to and that is not being walked. -/
  | linkedDirectory {name target : String} {there : List String} {inner : List (String × Node)}
    {found : List (List String)}
    (leads : tree.resolve (Path.join place.path name) = .ok (there, .directory inner))
    (fresh : there ∉ walking.map WalkPlace.names)
    (walked : tree.walkFrom steps ⟨there, Path.join place.path name⟩ walking (.directory inner) =
      .ok found) :
    Visits tree steps place walking (name, .link target) (found.map (name :: ·))

/-- A walk that succeeds finds what it does at the entries. -/
theorem visits_of_walkFrom {found : List (List String)}
    (walked : tree.walkFrom (steps + 1) place outer node = .ok found) :
    ∃ results, List.Forall₂ (tree.Visits steps place (place :: outer)) node.entries results ∧
      found = results.flatten := by
  rw [walkFrom] at walked
  obtain ⟨results, each, same⟩ := Log.exists_of_put_eq_ok walked
  refine ⟨results, (mapM_eq_ok_iff.1 each).imp ?_, same⟩
  rintro ⟨name, child⟩ result visited
  cases child with
  | file content =>
    cases visited
    exact .file
  | directory inner =>
    simp only at visited
    cases resolved : tree.resolve (Path.join place.path name) with
    | error reason =>
      rw [resolved] at visited
      cases visited
    | ok answer =>
      rw [resolved] at visited
      obtain ⟨below, inside, rfl⟩ := Log.exists_of_put_eq_ok visited
      exact .directory resolved inside
  | link target =>
    simp only at visited
    cases resolved : tree.resolve (Path.join place.path name) with
    | error reason =>
      rw [resolved] at visited
      cases visited
    | ok answer =>
      obtain ⟨there, node⟩ := answer
      rw [resolved] at visited
      rcases file_or_directory resolved with ⟨content, rfl⟩ | ⟨inner, rfl⟩
      · cases visited
        exact .linkedFile resolved
      · simp only at visited
        cases looked : (place :: outer).find? (·.names == there) with
        | some ancestor =>
          rw [looked] at visited
          cases visited
        | none =>
          rw [looked] at visited
          obtain ⟨below, inside, rfl⟩ := Log.exists_of_put_eq_ok visited
          refine .linkedDirectory resolved (fun again => ?_) inside
          obtain ⟨ancestor, before, same⟩ := List.mem_map.1 again
          exact List.find?_eq_none.1 looked ancestor before (beq_iff_eq.2 same)

/-- A walk that can find something at each entry succeeds. -/
theorem walkFrom_of_visits {results : List (List (List String))}
    (visits : List.Forall₂ (tree.Visits steps place (place :: outer)) node.entries results) :
    tree.walkFrom (steps + 1) place outer node = .ok results.flatten := by
  have together (visit : String × Node → Except WalkError (List (List String)))
      (each : List.Forall₂ (fun entry result => visit entry = .ok result) node.entries results) :
      (node.entries.mapM visit >>= fun found => .ok found.flatten) = .ok results.flatten := by
    rw [mapM_eq_ok_iff.2 each]
    rfl
  rw [walkFrom]
  apply together
  apply visits.imp
  rintro ⟨name, child⟩ result visited
  cases visited with
  | file => rfl
  | linkedFile leads =>
    simp only [leads]
    rfl
  | directory leads walked =>
    simp only [leads, walked]
    rfl
  | @linkedDirectory _ _ there _ _ leads fresh walked =>
    have looked : (place :: outer).find? (·.names == there) = none := by
      rw [List.find?_eq_none]
      intro ancestor before same
      exact fresh (List.mem_map.2 ⟨ancestor, before, beq_iff_eq.1 same⟩)
    simp only [leads, looked, walked]
    rfl

/-! ## Whole walks -/

/-- A walk that has steps enough and succeeds finds the files below its directory. -/
theorem lists_of_walkFrom {found : List (List String)} (proper : tree.root.Proper)
    (here : tree.root.find? place.names = some (.directory entries))
    (ready : tree.Ready steps place outer)
    (walked : tree.walkFrom steps place outer (.directory entries) = .ok found) :
    tree.Lists place.path entries found := by
  induction steps generalizing place outer entries found with
  | zero => exact absurd ready.pos (Nat.lt_irrefl 0)
  | succ steps ih =>
    obtain ⟨results, visits, rfl⟩ := visits_of_walkFrom walked
    have standing := proper.find here
    have each : ∀ entry ∈ entries, ∀ result,
        tree.Visits steps place (place :: outer) entry result →
          tree.Lists place.path [entry] result := by
      intro entry member result visited
      cases visited with
      | file => exact .single fun _ => holds_file_iff
      | linkedFile leads => exact .single fun _ => (holds_link_iff leads).trans holds_file_iff
      | directory leads inside =>
        have there := (Node.find?_concat here _).trans (standing.lookup member)
        have listed := ih there (ready.inside _ (Node.mem_directories there)) inside
        exact .below (fun _ => holds_directory_iff) listed
      | linkedDirectory leads fresh inside =>
        have there := find?_of_resolve leads
        have listed := ih there (ready.jump _ (Node.mem_directories there) fresh) inside
        exact .below (fun _ => (holds_link_iff leads).trans holds_directory_iff) listed
    have together := (List.forall₂_and_left _ _).2 ⟨each, visits⟩
    cases standing with
    | directory once named below =>
      exact .flatten (together.imp fun entry result ⟨lists, visited⟩ => lists result visited) once

/-- The steps that a walk is given. -/
def allSteps (tree : FileTree) : Nat :=
  (tree.root.directoryCount + 1) * (tree.root.directoryCount + 1)

/-- They are enough. -/
theorem ready_allSteps {there : List String} (found : there ∈ tree.root.directories) :
    tree.Ready tree.allSteps ⟨there, path⟩ [] :=
  .start found (Nat.mul_le_mul (Nat.le_succ _) (Nat.le_succ _))

/-- The answer of a walk is what it finds in the order of the names. -/
theorem walk_eq_ok_iff {there : List String} {found : List (List String)}
    (resolved : tree.resolve path = .ok (there, .directory entries)) :
    tree.walk path = .ok found ↔
      ∃ listed, tree.walkFrom tree.allSteps ⟨there, path⟩ [] (.directory entries) = .ok listed ∧
        found = listed.mergeSort := by
  rw [walk, resolved]
  simp only [Path.not_before_eq]
  constructor
  · exact Log.exists_of_put_eq_ok
  · rintro ⟨listed, inside, rfl⟩
    change tree.walkFrom tree.allSteps ⟨there, path⟩ [] (.directory entries) >>= _ = _
    rw [inside]
    rfl

/-- A walk that succeeds answers the files below its directory in the order of their names. -/
theorem walk_exact {there : List String} {found : List (List String)} (proper : tree.root.Proper)
    (resolved : tree.resolve path = .ok (there, .directory entries))
    (walked : tree.walk path = .ok found) :
    (∀ names, names ∈ found ↔ tree.Holds path entries names) ∧ found.Pairwise (· < ·) := by
  obtain ⟨listed, inside, rfl⟩ := (walk_eq_ok_iff resolved).1 walked
  have here := find?_of_resolve resolved
  have ready : tree.Ready tree.allSteps ⟨there, path⟩ [] :=
    ready_allSteps (Node.mem_directories here)
  have lists : tree.Lists path entries listed := lists_of_walkFrom proper here ready inside
  have sorted : (listed.mergeSort).Pairwise (· ≤ ·) := List.pairwise_mergeSort' (· ≤ ·) listed
  have distinct : (listed.mergeSort).Nodup := (List.mergeSort_perm listed _).nodup_iff.2 lists.nodup
  constructor
  · intro names
    rw [List.mem_mergeSort, lists.mem_iff]
  · exact (sorted.and distinct).imp fun ⟨before, apart⟩ => lt_of_le_of_ne before apart

end Conformance.FileTree
