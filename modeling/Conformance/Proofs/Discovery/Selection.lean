import Conformance.Proofs.Discovery.Entered
import Conformance.Proofs.Files.Rearranged
import Mathlib

/-!
# What the search for sources selects

A scan that comes to its end answers the files below the directory of its set that match an include
pattern and no exclude pattern. They come in the order of their paths, so the order in which the
walk comes to them does not matter. A search answers what the scans of its sets do, one after the
other, or the first error among them.
-/

namespace Conformance.FileSet

open Log Log.Attempt

/-! ## Patterns -/

/-- A pattern can be read and accepts a path. -/
def Accepts (pattern path : String) : Prop :=
  ∃ glob, Glob.ofText pattern = .ok glob ∧ glob.accepts path = true

/-- Some of the patterns accepts a path. -/
def Matches (patterns : List String) (path : String) : Prop :=
  ∃ pattern ∈ patterns, Accepts pattern path

/-- All patterns can be read. -/
def Legible (patterns : List String) : Prop :=
  ∀ pattern ∈ patterns, ∃ glob, Glob.ofText pattern = .ok glob

variable {patterns others : List String} {pattern path : String} {glob : Glob}

/-- A pattern accepts what its glob does. -/
theorem accepts_iff (read : Glob.ofText pattern = .ok glob) :
    Accepts pattern path ↔ glob.accepts path = true := by
  simp [Accepts, read]

instance : Decidable (Accepts pattern path) :=
  match read : Glob.ofText pattern with
  | .ok _ => decidable_of_iff' _ (accepts_iff read)
  | .error _ => isFalse fun ⟨_, wrong, _⟩ => by rw [read] at wrong; cases wrong

instance : Decidable (Matches patterns path) :=
  inferInstanceAs (Decidable (∃ pattern ∈ patterns, Accepts pattern path))

/-- What some patterns match, more of them match. -/
theorem Matches.mono (found : Matches patterns path) (more : patterns ⊆ others) :
    Matches others path := by
  obtain ⟨pattern, member, accepted⟩ := found
  exact ⟨pattern, more member, accepted⟩

/-- Patterns that can be read are read, and the globs accept what they match. -/
theorem readPatterns_yields (legible : Legible patterns) :
    ∃ globs, (readPatterns patterns).Yields (.ok globs) ∧
      ∀ path, globs.any (·.accepts path) = true ↔ Matches patterns path := by
  induction patterns with
  | nil => exact ⟨[], .pure [], fun path => by simp [Matches]⟩
  | cons pattern patterns ih =>
    obtain ⟨⟨glob, read⟩, rest⟩ := List.forall_mem_cons.1 legible
    obtain ⟨globs, others, accepts⟩ := ih rest
    have yields : (readPatterns (pattern :: patterns)).Yields (.ok (glob :: globs)) := by
      rw [readPatterns, read]
      exact others.bind_ok (.pure (glob :: globs))
    refine ⟨glob :: globs, yields, fun path => ?_⟩
    rw [List.any_cons, Bool.or_eq_true, accepts, ← accepts_iff read]
    exact (List.exists_mem_cons_iff (Accepts · path) pattern patterns).symm

variable {set : FileSet} {tree other : FileTree} {names : List String}

/-! ## Files of a set -/

/-- The names below the directory of a set lead to a file, through directories and links. -/
def Reaches (set : FileSet) (tree : FileTree) (names : List String) : Prop :=
  ∃ there entries, tree.resolve set.directory = .ok (there, .directory entries) ∧
    tree.Holds set.directory entries names

/-- A file belongs to a set: some include pattern matches its path, and no exclude pattern does. -/
def Selects (set : FileSet) (names : List String) : Prop :=
  Matches set.includes (Path.ofNames names) ∧ ¬Matches set.excludes (Path.ofNames names)

instance : DecidablePred set.Selects :=
  fun _ => inferInstanceAs (Decidable (_ ∧ _))

/-- The path of a file from the directory of a set on. -/
def locate (set : FileSet) (names : List String) : String :=
  Path.join set.directory (Path.ofNames names)

/-- The paths of those files that belong to a set. -/
def pick (set : FileSet) (found : List (List String)) : List String :=
  (found.filter set.Selects).map set.locate

/-- The same paths in the order of their components. -/
def collect (set : FileSet) (found : List (List String)) : List String :=
  (set.pick found).mergeSort fun first second =>
    decide (Path.components first ≤ Path.components second)

/-- A path is picked for a file that belongs to the set. -/
theorem mem_pick_iff {found : List (List String)} :
    path ∈ set.pick found ↔
      ∃ names, names ∈ found ∧ set.Selects names ∧ path = set.locate names := by
  rw [pick, List.mem_map]
  refine exists_congr fun names => ?_
  rw [List.mem_filter, decide_eq_true_iff, and_assoc, eq_comm]

/-- A set to which more files below the directory belong picks more paths. -/
theorem pick_subset {other : FileSet} {found : List (List String)}
    (same : set.directory = other.directory)
    (more : ∀ names, set.Selects names → other.Selects names) :
    set.pick found ⊆ other.pick found := by
  intro path picked
  obtain ⟨names, member, selected, rfl⟩ := mem_pick_iff.1 picked
  refine mem_pick_iff.2 ⟨names, member, more names selected, ?_⟩
  rw [locate, locate, same]

/-- A set of which the scan comes to its end, in a tree as file systems keep theirs. -/
structure Scannable (set : FileSet) (tree : FileTree) : Prop where
  /-- The tree is as file systems keep theirs. -/
  proper : tree.root.Proper
  /-- The directory of the set is one. -/
  directory : tree.isDirectory set.directory = true
  /-- It can be walked. -/
  walked : ∃ found, tree.walk set.directory = .ok found
  /-- The include patterns can be read. -/
  includes : Legible set.includes
  /-- So can the exclude patterns. -/
  excludes : Legible set.excludes

/-- The same files are reached if directories have their entries in another order. -/
theorem Reaches.rearranged (reaches : set.Reaches tree names) (same : tree.Rearranged other)
    (proper : tree.root.Proper) : set.Reaches other names := by
  obtain ⟨there, entries, resolved, inside⟩ := reaches
  obtain ⟨node, resolved', kind⟩ := same.resolve resolved
  obtain ⟨entries', rfl⟩ := Node.exists_directory_of_bare kind
  have here := FileTree.find?_of_resolve resolved
  have here' := FileTree.find?_of_resolve resolved'
  exact ⟨there, entries', resolved', same.holds proper here here' inside⟩

/-- And a set can be scanned there as well. -/
theorem Scannable.rearranged (scannable : set.Scannable tree) (same : tree.Rearranged other)
    (proper : other.root.Proper) : set.Scannable other := by
  obtain ⟨there, entries, resolved⟩ := FileTree.exists_of_isDirectory scannable.directory
  obtain ⟨node, resolved', kind⟩ := same.resolve resolved
  obtain ⟨entries', rfl⟩ := Node.exists_directory_of_bare kind
  have directory : other.isDirectory set.directory = true := by
    rw [FileTree.isDirectory, resolved']
    rfl
  obtain ⟨found, walked⟩ := scannable.walked
  have walked' := same.walk proper resolved walked
  exact ⟨proper, directory, walked', scannable.includes, scannable.excludes⟩

/-- The walk of a scan comes to each file below the directory, in the order of their names. -/
theorem Scannable.exists_walk (scannable : set.Scannable tree) :
    ∃ found, tree.walk set.directory = .ok found ∧
      (∀ names, names ∈ found ↔ set.Reaches tree names) ∧ found.Pairwise (· < ·) ∧
      ∀ names ∈ found, names ≠ [] ∧ ∀ name ∈ names, Path.IsName name := by
  obtain ⟨found, walked⟩ := scannable.walked
  obtain ⟨there, entries, resolved⟩ := FileTree.exists_of_isDirectory scannable.directory
  obtain ⟨holds, sorted⟩ := FileTree.walk_exact scannable.proper resolved walked
  refine ⟨found, walked, fun names => ?_, sorted, fun names member => ?_⟩
  · rw [holds]
    refine ⟨fun inside => ⟨there, entries, resolved, inside⟩, ?_⟩
    rintro ⟨_, _, again, inside⟩
    rw [resolved] at again
    cases again
    exact inside
  · have inside := (holds names).1 member
    have here := scannable.proper.find (FileTree.find?_of_resolve resolved)
    obtain ⟨name, -, rest, rfl⟩ := inside.exists_cons
    exact ⟨List.cons_ne_nil _ _, inside.named scannable.proper here⟩

/-- A scan that comes to its end answers those of the files that belong to the set. -/
theorem Scannable.scan_yields (scannable : set.Scannable tree) {found : List (List String)}
    (walked : tree.walk set.directory = .ok found) :
    (set.scan tree).Yields (.ok (set.pick found)) := by
  obtain ⟨includes, included, accepted⟩ := readPatterns_yields scannable.includes
  obtain ⟨excludes, excluded, refused⟩ := readPatterns_yields scannable.excludes
  have same : selects includes excludes = fun names => decide (set.Selects names) := by
    funext names
    rw [Bool.eq_iff_iff, decide_eq_true_iff]
    simp [selects, Selects, ← accepted, ← refused]
  unfold scan
  rw [scannable.directory, if_neg (by decide), walked]
  refine included.bind_ok (excluded.bind_ok ?_)
  simp only [same]
  exact .pure (set.pick found)

/-! ## The order of the files -/

/-- Files in the order of their names have paths in the order of their components. -/
theorem pick_sorted {found : List (List String)} (some : set.directory ≠ "")
    (named : ∀ names ∈ found, names ≠ [] ∧ ∀ name ∈ names, Path.IsName name)
    (sorted : found.Pairwise (· < ·)) :
    (set.pick found).Pairwise fun first second =>
      Path.components first < Path.components second := by
  refine List.pairwise_map.2 (sorted.filter _ |>.imp_of_mem ?_)
  intro firsts seconds one other earlier
  obtain ⟨first, proper⟩ := named firsts (List.mem_filter.1 one).1
  obtain ⟨second, proper'⟩ := named seconds (List.mem_filter.1 other).1
  exact Path.components_join_lt some first second (List.forall_mem_append.2 ⟨proper, proper'⟩)
    earlier

/-- Files in any order have the same paths once these are in order. -/
theorem collect_eq {found yielded : List (List String)}
    (sorted : (set.pick found).Pairwise fun first second =>
      Path.components first < Path.components second)
    (same : yielded.Perm found) : set.collect yielded = set.pick found := by
  have each : (set.pick yielded).Perm (set.pick found) := (same.filter _).map _
  have ordered : (set.collect yielded).Pairwise fun first second =>
      Path.components first ≤ Path.components second := by
    refine (List.pairwise_mergeSort ?_ ?_ (set.pick yielded)).imp of_decide_eq_true
    · intro first second third
      simp only [decide_eq_true_iff]
      exact le_trans
    · intro first second
      simpa using le_total (Path.components first) (Path.components second)
  have apart : ((set.pick found).map Path.components).Nodup :=
    List.pairwise_map.2 (sorted.imp ne_of_lt)
  refine List.Perm.eq_of_pairwise ?_ ordered (sorted.imp le_of_lt)
    ((List.mergeSort_perm _ _).trans each)
  intro first second one other before behind
  have member := ((List.mergeSort_perm _ _).trans each).mem_iff.1 one
  exact List.inj_on_of_nodup_map apart member other (le_antisymm before behind)

/-! ## Searches -/

/-- These are the files of the sets, each of which can be scanned. -/
def Found (tree : FileTree) (sets : List FileSet) (found : List (List String)) : Prop :=
  List.Forall₂ (fun set files => (set.scan tree).Yields (.ok files)) sets found

/-- The first set of which the scan fails does so with an error. -/
def FailsFirst (tree : FileTree) (sets : List FileSet) (error : DiscoveryError) : Prop :=
  ∃ before set after found, sets = before ++ set :: after ∧ Found tree before found ∧
    (set.scan tree).Yields (.error error)

/-- Every scan comes to an end, or fails. -/
theorem exists_scan_yields (set : FileSet) (tree : FileTree) :
    ∃ outcome, (set.scan tree).Yields outcome := by
  obtain ⟨outcome, course⟩ := course_scan set tree
  exact ⟨outcome, Course.yields course⟩

/-- The scans of sets answer their files one after the other, or fail as the first that does. -/
theorem scanAll_yields (tree : FileTree) (sets : List FileSet) :
    (∃ found, Found tree sets found ∧ (scanAll tree sets).Yields (.ok found.flatten)) ∨
      ∃ error, FailsFirst tree sets error ∧ (scanAll tree sets).Yields (.error error) := by
  induction sets with
  | nil => exact .inl ⟨[], .nil, .pure []⟩
  | cons set sets ih =>
    obtain ⟨outcome, scanned⟩ := exists_scan_yields set tree
    cases outcome with
    | error error => exact .inr ⟨error, ⟨[], set, sets, [], rfl, .nil, scanned⟩, scanned.bind_error⟩
    | ok files =>
      rcases ih with ⟨found, each, yields⟩ | ⟨error, fails, yields⟩
      · refine .inl ⟨files :: found, .cons scanned each, scanned.bind_ok (yields.bind_ok ?_)⟩
        exact .pure (files ++ found.flatten)
      · obtain ⟨before, failing, after, found, rfl, each, failed⟩ := fails
        refine .inr ⟨error, ?_, scanned.bind_ok yields.bind_error⟩
        exact ⟨set :: before, failing, after, files :: found, rfl, .cons scanned each, failed⟩

/-- So does a search. -/
theorem discover_yields (tree : FileTree) (sets : List FileSet) :
    (∃ found, Found tree sets found ∧ (discover sets tree).Yields (.ok found.flatten)) ∨
      ∃ error, FailsFirst tree sets error ∧ (discover sets tree).Yields (.error error) := by
  rcases scanAll_yields tree sets with ⟨found, each, yields⟩ | ⟨error, fails, yields⟩
  · refine .inl ⟨found, each, yields.bind_ok ?_⟩
    exact (Yields.pure found.flatten).emit _ _
  · exact .inr ⟨error, fails, yields.bind_error⟩

/-! ## What is selected -/

/-- A scan of a set, in a tree as file systems keep theirs, whose directory can be walked and whose
patterns can be read. It answers the paths of exactly those files that some include pattern and no
exclude pattern matches, in the order of their components and so each of them once. They are the
same whatever the order in which the files are come to, and in every tree whose directories have
these entries in another order. More include patterns lose no file, and more exclude patterns gain
none. A search answers what its scans do one after the other, or the first error among them. -/
theorem scan_selects (set : FileSet) (tree : FileTree) (scannable : set.Scannable tree) :
    (∃ files, (set.scan tree).Yields (.ok files) ∧
      (∀ path, path ∈ files ↔
        ∃ names, set.Reaches tree names ∧ set.Selects names ∧ path = set.locate names) ∧
      (files.Pairwise fun first second => Path.components first < Path.components second) ∧
      files.Nodup ∧
      (∀ found : List (List String), found.Nodup →
        (∀ names, names ∈ found ↔ set.Reaches tree names) → files = set.collect found) ∧
      (∀ other : FileTree, tree.Rearranged other → other.root.Proper →
        (set.scan other).Yields (.ok files)) ∧
      (∀ includes, Legible includes → set.includes ⊆ includes →
        ∃ more, (scan { set with includes := includes } tree).Yields (.ok more) ∧ files ⊆ more) ∧
      ∀ excludes, Legible excludes → set.excludes ⊆ excludes →
        ∃ fewer, (scan { set with excludes := excludes } tree).Yields (.ok fewer) ∧
          fewer ⊆ files) ∧
    ∀ sets,
      (∃ found, Found tree sets found ∧ (discover sets tree).Yields (.ok found.flatten)) ∨
        ∃ error, FailsFirst tree sets error ∧ (discover sets tree).Yields (.error error) := by
  refine ⟨?_, discover_yields tree⟩
  obtain ⟨found, walked, reaches, sorted, named⟩ := scannable.exists_walk
  obtain ⟨there, entries, resolved⟩ := FileTree.exists_of_isDirectory scannable.directory
  have ordered := pick_sorted (FileTree.ne_empty_of_resolve resolved) named sorted
  refine ⟨set.pick found, scannable.scan_yields walked, fun path => ?_, ordered,
    ordered.imp fun earlier same => ?_, fun yielded once each => ?_,
    fun other rearranged proper => ?_, fun includes legible more => ?_,
    fun excludes legible more => ?_⟩
  · rw [mem_pick_iff]
    exact exists_congr fun names => and_congr_left' (reaches names)
  · exact absurd (same ▸ earlier) (lt_irrefl _)
  · have distinct : found.Nodup := sorted.imp ne_of_lt
    have same := (List.perm_ext_iff_of_nodup once distinct).2 fun names =>
      (each names).trans (reaches names).symm
    exact (collect_eq ordered same).symm
  · have fine := scannable.rearranged rearranged proper
    obtain ⟨others, walked', reaches', sorted', -⟩ := fine.exists_walk
    have both (names : List String) : set.Reaches other names ↔ set.Reaches tree names :=
      ⟨fun reached => reached.rearranged rearranged.symm proper,
        fun reached => reached.rearranged rearranged scannable.proper⟩
    have same : others = found := sorted'.eq_of_mem_iff sorted fun names =>
      (reaches' names).trans ((both names).trans (reaches names).symm)
    exact same ▸ fine.scan_yields walked'
  · have still : Scannable { set with includes := includes } tree :=
      ⟨scannable.proper, scannable.directory, scannable.walked, legible, scannable.excludes⟩
    refine ⟨_, still.scan_yields walked, pick_subset rfl fun names selected => ?_⟩
    exact ⟨selected.1.mono more, selected.2⟩
  · have still : Scannable { set with excludes := excludes } tree :=
      ⟨scannable.proper, scannable.directory, scannable.walked, scannable.includes, legible⟩
    refine ⟨_, still.scan_yields walked, pick_subset rfl fun names selected => ?_⟩
    exact ⟨selected.1, fun matched => selected.2 (matched.mono more)⟩

/-- A directory whose name is the beginning of that of a file, and a link to another directory. -/
def branching : FileTree where
  root := .directory [
    ("d", .directory [("a-b", .file (.zeros 0)), ("l", .link "../e"),
      ("a", .directory [("z", .file (.zeros 0)), ("n.log", .file (.zeros 0))])]),
    ("e", .directory [("x", .file (.zeros 0))])]
  start := []

/-- The tree is as file systems keep theirs. -/
theorem proper_branching : branching.root.Proper := by
  refine .directory (by decide) (by decide) ?_
  simp only [List.forall_mem_cons]
  refine ⟨.directory (by decide) (by decide) ?_, .directory (by decide) (by decide) ?_, nofun⟩
  · simp only [List.forall_mem_cons]
    refine ⟨.file _, .link _, .directory (by decide) (by decide) ?_, nofun⟩
    exact List.forall_mem_cons.2 ⟨.file _, List.forall_mem_cons.2 ⟨.file _, nofun⟩⟩
  · exact List.forall_mem_cons.2 ⟨.file _, nofun⟩

/-- The walk goes through the link. -/
theorem walk_branching : branching.walk "d" =
    .ok [["a", "n.log"], ["a", "z"], ["a-b"], ["l", "x"]] := by
  cbv

/-- The file below the directory comes first, although a hyphen comes before a slash, and the file
below the link is one of the set. -/
theorem scan_selects_branching :
    let set : FileSet := ⟨"d", ["**/*"], ["**/*.log"]⟩
    set.Scannable branching ∧ (set.scan branching).Yields (.ok ["d/a/z", "d/a-b", "d/l/x"]) ∧
      ∃ names, set.Reaches branching names ∧ set.locate names = "d/l/x" := by
  intro set
  have scannable : set.Scannable branching := by
    refine ⟨proper_branching, by cbv, ⟨_, walk_branching⟩, ?_, ?_⟩
    · exact List.forall_mem_singleton.2 ⟨_, by cbv⟩
    · exact List.forall_mem_singleton.2 ⟨_, by cbv⟩
  obtain ⟨⟨files, yields, members, -⟩, -⟩ := scan_selects set branching scannable
  have picked : set.pick [["a", "n.log"], ["a", "z"], ["a-b"], ["l", "x"]] =
      ["d/a/z", "d/a-b", "d/l/x"] := by
    decide +kernel
  cases (yields.unique (scannable.scan_yields walk_branching)).trans (congrArg _ picked)
  obtain ⟨names, reaches, -, same⟩ := (members "d/l/x").1 (by decide)
  exact ⟨scannable, yields, names, reaches, same.symm⟩

end Conformance.FileSet
