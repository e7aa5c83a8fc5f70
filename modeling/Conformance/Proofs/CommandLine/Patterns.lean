import Conformance.CommandLine.Layering
import Conformance.Proofs.Log.Outcome

/-!
# The patterns of a directory

The include patterns of a command line are given one after the other to the file set of its
directory, which includes everything before. The first pattern takes the place of the pattern for
everything. A set that was given just this one looks as if it had been given none, so the pattern
for everything is lost in front of others. Exclude patterns are never lost.
-/

namespace Conformance

/-! ## Patterns given one after the other -/

namespace FileSet

/-- The patterns of a set that is given some; a set that is given none includes everything. -/
def orEverything (patterns : List String) : List String :=
  if patterns = [] then everything else patterns

/-- What is kept of the patterns that are given to a set which includes everything: those from the
first one on that is not the pattern for everything, or that one alone. -/
def kept (patterns : List String) : List String :=
  orEverything (patterns.dropWhile (· == "**/*"))

variable {set : FileSet} {first : String} {others : List String}

/-- The pattern for everything is dropped from the front. -/
theorem kept_cons_everything (patterns : List String) : kept ("**/*" :: patterns) = kept patterns :=
  congrArg orEverything (List.dropWhile_cons_of_pos (beq_self_eq_true "**/*"))

/-- From another pattern on all are kept. -/
theorem kept_cons_of_ne (other : first ≠ "**/*") (patterns : List String) :
    kept (first :: patterns) = first :: patterns := by
  have stays : (first :: patterns).dropWhile (· == "**/*") = first :: patterns :=
    List.dropWhile_cons_of_neg (by simpa using other)
  rw [kept, stays, orEverything, if_neg (List.cons_ne_nil _ _)]

/-- No more patterns are kept than are given, and there is one at least. -/
theorem length_kept_le (patterns : List String) :
    (kept patterns).length ≤ max 1 patterns.length := by
  have shorter := (List.dropWhile_sublist (· == "**/*") (l := patterns)).length_le
  rw [kept, orEverything]
  split
  · exact Nat.le_max_left _ _
  · exact Nat.le_trans shorter (Nat.le_max_right _ _)

/-- A set whose first pattern is not the one for everything keeps its patterns before those that it
is given. -/
theorem foldl_including_of_ne (other : first ≠ "**/*") (includes : set.includes = first :: others)
    (patterns : List String) :
    patterns.foldl including set = { set with includes := first :: others ++ patterns } := by
  induction patterns generalizing set others with
  | nil =>
    rw [List.append_nil, ← includes]
    rfl
  | cons pattern patterns ih =>
    have narrow : set.includes ≠ everything := by
      rw [includes, everything]
      exact fun same => other (List.cons.inj same).1
    have given : (set.including pattern).includes = first :: (others ++ [pattern]) := by
      rw [including, if_neg narrow, includes]
      rfl
    rw [List.foldl_cons, ih given, List.cons_append, List.append_assoc]
    rfl

/-- A set that includes everything keeps of the patterns that it is given what is kept of them. -/
theorem foldl_including_everything (includes : set.includes = everything)
    (patterns : List String) :
    patterns.foldl including set = { set with includes := kept patterns } := by
  induction patterns generalizing set with
  | nil =>
    change set = { set with includes := everything }
    rw [← includes]
  | cons pattern patterns ih =>
    have given : set.including pattern = { set with includes := [pattern] } := by
      rw [including, if_pos includes]
      rfl
    rw [List.foldl_cons, given]
    by_cases whole : pattern = "**/*"
    · subst whole
      rw [kept_cons_everything]
      exact ih rfl
    · have alone : ({ set with includes := [pattern] } : FileSet).includes = [pattern] := rfl
      rw [kept_cons_of_ne whole]
      exact foldl_including_of_ne whole alone patterns

/-- A set keeps all exclude patterns that it is given. -/
theorem foldl_excluding (set : FileSet) (patterns : List String) :
    patterns.foldl excluding set = { set with excludes := set.excludes ++ patterns } := by
  induction patterns generalizing set with
  | nil => rw [List.append_nil, List.foldl_nil]
  | cons pattern patterns ih =>
    rw [List.foldl_cons, ih, excluding, List.append_assoc]
    rfl

/-- The patterns that are kept are those given, unless the pattern for everything stands in front
of others. -/
theorem kept_eq_iff (patterns : List String) :
    kept patterns = orEverything patterns ↔
      ∀ second others, patterns ≠ "**/*" :: second :: others := by
  match patterns with
  | [] => exact iff_of_true rfl fun _ _ => nofun
  | [pattern] =>
    refine iff_of_true ?_ fun _ _ => nofun
    by_cases whole : pattern = "**/*"
    · subst whole
      rfl
    · exact kept_cons_of_ne whole []
  | pattern :: second :: others =>
    by_cases whole : pattern = "**/*"
    · subst whole
      refine iff_of_false (fun same => ?_) fun never => never second others rfl
      have shorter := length_kept_le (second :: others)
      rw [kept_cons_everything] at same
      rw [same, orEverything, if_neg (List.cons_ne_nil _ _)] at shorter
      simp only [List.length_cons] at shorter
      omega
    · refine iff_of_true (kept_cons_of_ne whole _) fun _ _ same => whole ?_
      exact (List.cons.inj same).1

end FileSet

/-! ## The file set of a command line -/

namespace CommandLine

variable {line : CommandLine} {environment : Environment} {tree : FileTree} {settings : Settings}
  {directory : String}

/-- The file set of a directory with the patterns that are kept. -/
theorem fileSet?_eq (named : line.directory = some directory) :
    line.fileSet? = some ⟨directory, FileSet.kept line.includes, line.excludes⟩ := by
  have fresh : (FileSet.ofDirectory directory).includes = FileSet.everything := rfl
  have included := FileSet.foldl_including_everything fresh line.includes
  rw [fileSet?, named, Option.map_some, included, FileSet.foldl_excluding]
  rfl

/-- The settings of a command line are those below it with its own over them. -/
theorem exists_below (returned : line.settings environment tree = .ok settings) :
    ∃ below, line.base environment tree = .ok below ∧ settings = line.overlay below := by
  unfold CommandLine.settings at returned
  obtain ⟨-, -, returned⟩ := Log.exists_of_bind_eq_ok returned
  obtain ⟨below, found, returned⟩ := Log.exists_of_bind_eq_ok returned
  obtain ⟨-, -, same⟩ := Log.exists_of_bind_eq_ok returned
  exact ⟨below, Log.eq_ok_of_mapError found, (Except.ok.inj same).symm⟩

/-- A command line that names a directory adds one file set behind those below it. The set has the
exclude patterns of the command line in their order. Of its include patterns it has those from the
first one on that is not the pattern for everything, and that one alone if there is no other. So it
has the include patterns of the command line exactly when these are not the pattern for everything
in front of others. -/
theorem patterns_kept_iff (named : line.directory = some directory)
    (returned : line.settings environment tree = .ok settings) :
    ∃ below included, line.base environment tree = .ok below ∧
      settings.fileSets = below.fileSets ++ [⟨directory, included, line.excludes⟩] ∧
      included = FileSet.kept line.includes ∧
      (included = FileSet.orEverything line.includes ↔
        ∀ second others, line.includes ≠ "**/*" :: second :: others) := by
  obtain ⟨below, found, rfl⟩ := exists_below returned
  refine ⟨below, _, found, ?_, rfl, FileSet.kept_eq_iff line.includes⟩
  change below.fileSets ++ line.fileSet?.toList = _
  rw [fileSet?_eq named]
  rfl

/-- A command line that tests the files of a directory that match some patterns. -/
def patterned (includes : List String) : CommandLine :=
  { CommandLine.empty with
    startRule := some "startRule"
    grammar := some "Snafu"
    directory := some "d"
    includes }

/-- The pattern for everything is kept behind another one. -/
theorem patterns_kept_behind :
    (patterned ["*.snf", "**/*"]).directory = some "d" ∧
      ∃ settings, (patterned ["*.snf", "**/*"]).settings ⟨[]⟩ ⟨.directory [], []⟩ = .ok settings ∧
        settings.fileSets = [⟨"d", ["*.snf", "**/*"], []⟩] := by
  have returned : (patterned ["*.snf", "**/*"]).settings ⟨[]⟩ ⟨.directory [], []⟩ = .ok _ := rfl
  obtain ⟨below, included, found, sets, -, kept⟩ := patterns_kept_iff rfl returned
  obtain rfl := Except.ok.inj found
  have same : included = ["*.snf", "**/*"] := kept.2 (by simp [patterned])
  exact ⟨rfl, _, returned, same ▸ sets⟩

/-- The pattern for everything is lost in front of another one. -/
theorem not_patterns_kept_before :
    CommandLine.ofWords ["--start-rule", "startRule", "--grammar", "Snafu", "--dir", "d",
        "--include", "**/*", "--include", "*.snf"] = .ok (patterned ["**/*", "*.snf"]) ∧
      ∃ settings, (patterned ["**/*", "*.snf"]).settings ⟨[]⟩ ⟨.directory [], []⟩ = .ok settings ∧
        settings.fileSets = [⟨"d", ["*.snf"], []⟩] ∧
        settings.fileSets ≠ [⟨"d", ["**/*", "*.snf"], []⟩] := by
  refine ⟨rfl, _, rfl, rfl, ?_⟩
  decide

end CommandLine

end Conformance
