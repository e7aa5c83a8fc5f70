import Conformance.Proofs.Discovery.Entered
import Conformance.Proofs.Run.Composition

/-!
# Rejections among the sources of a run

A run has results for all its sources, or it breaks for another reason than a rejection. Whether a
source that has a result is rejected is said by the result, so the results count the rejected
sources.
-/

namespace Conformance

open Log.Attempt

/-- A verdict is a rejection just when the start rule is admitted and cancelled. -/
theorem Parser.hasFailed_iff {parser : Parser} {rule : String} {result : SourceResult}
    (judged : parser.verdict rule = .ok result) :
    result.hasFailed = true ↔ RuleEntry.admit parser.table rule = .ok () ∧
      ∃ cause, (parser.invoke rule).1 = .error (.cancelled cause) := by
  obtain ⟨admitted, ended⟩ := verdict_eq_ok_iff.1 judged
  rcases ended with ⟨accepted, rfl⟩ | ⟨cause, cancelled, rfl⟩
  · rw [accepted]
    exact ⟨nofun, nofun⟩
  · exact ⟨fun _ => ⟨admitted, cause, cancelled⟩, fun _ => rfl⟩

namespace Run

variable {run : Run} {identity : GrammarIdentity} {assembly : Assembly}

/-- A source that has a result is rejected just when the result says so. -/
theorem rejects_iff (named : run.settings.identity = .ok identity)
    (assembled : run.assemblyOf identity = .ok assembly) {path : String} {result : SourceResult}
    (judged : run.judge assembly path = .ok result) :
    (∃ cause, run.Rejects path cause) ↔ result.hasFailed = true := by
  obtain ⟨parser, prepared, called⟩ := Log.exists_of_bind_eq_ok judged
  have built := assembly.yields_build run.tree ⟨path, run.settings.encoding⟩
  rw [Log.eq_ok_of_mapError prepared] at built
  rw [Parser.hasFailed_iff (Log.eq_ok_of_mapError called)]
  constructor
  · intro rejects
    obtain ⟨cause, identity', assembly', parser', named', found, built', admitted, cancelled⟩ :=
      rejects
    cases named.symm.trans named'
    have same := (run.yields_assemble identity).unique found
    cases assembled.symm.trans same
    cases built.unique built'
    exact ⟨admitted, cause, cancelled⟩
  · intro rejected
    obtain ⟨admitted, cause, cancelled⟩ := rejected
    have found := run.yields_assemble identity
    rw [assembled] at found
    exact ⟨cause, identity, assembly, parser, named, found, built, admitted, cancelled⟩

/-- Among sources, so many are rejected. -/
inductive Rejections (run : Run) : List String → Nat → Prop where
  /-- Without sources there are none. -/
  | nil : Rejections run [] 0
  /-- A source that is rejected counts. -/
  | rejected {path : String} {paths : List String} {count : Nat} {cause : RecognitionError}
      (rejects : run.Rejects path cause) (others : Rejections run paths count) :
      Rejections run (path :: paths) (count + 1)
  /-- A source that is not does not. -/
  | passed {path : String} {paths : List String} {count : Nat}
      (passes : ∀ cause, ¬run.Rejects path cause) (others : Rejections run paths count) :
      Rejections run (path :: paths) count

/-- Results count the rejections among their sources. -/
theorem rejections_of_judged (named : run.settings.identity = .ok identity)
    (assembled : run.assemblyOf identity = .ok assembly) {paths : List String}
    {results : List SourceResult}
    (judged : List.Forall₂ (fun path result => run.judge assembly path = .ok result) paths
      results) :
    run.Rejections paths (results.filter SourceResult.hasFailed).length := by
  induction judged with
  | nil => exact .nil
  | @cons path result paths results first others ih =>
    have decided := rejects_iff named assembled first
    by_cases failed : result.hasFailed = true
    · obtain ⟨cause, rejects⟩ := decided.2 failed
      rw [List.filter_cons_of_pos failed, List.length_cons]
      exact .rejected rejects ih
    · rw [List.filter_cons_of_neg failed]
      exact .passed (fun cause rejects => failed (decided.1 ⟨cause, rejects⟩)) ih

/-- So many are rejected and no other number. -/
theorem Rejections.unique {paths : List String} {count other : Nat}
    (rejections : run.Rejections paths count) (again : run.Rejections paths other) :
    count = other := by
  induction rejections generalizing other with
  | nil =>
    cases again
    rfl
  | rejected rejects others ih =>
    cases again with
    | rejected _ further => rw [ih further]
    | passed passes _ => exact absurd rejects (passes _)
  | passed passes others ih =>
    cases again with
    | rejected rejects _ => exact absurd rejects (passes _)
    | passed _ further => exact ih further

/-- There are rejections just when some source is rejected. -/
theorem Rejections.pos_iff {paths : List String} {count : Nat}
    (rejections : run.Rejections paths count) :
    0 < count ↔ ∃ path ∈ paths, ∃ cause, run.Rejects path cause := by
  induction rejections with
  | nil => simp
  | rejected rejects others ih =>
    constructor
    · intro _
      exact ⟨_, List.mem_cons_self, _, rejects⟩
    · intro _
      exact Nat.succ_pos _
  | passed passes others ih =>
    rw [ih]
    constructor
    · intro found
      obtain ⟨path, member, rejected⟩ := found
      exact ⟨path, List.mem_cons_of_mem _ member, rejected⟩
    · intro found
      obtain ⟨path, member, cause, rejects⟩ := found
      rcases List.mem_cons.1 member with rfl | member
      · exact absurd rejects (passes cause)
      · exact ⟨path, member, cause, rejects⟩

/-- A run with settings that make sense yields what it answers on the sources that it finds. -/
theorem yields_execute (unskipped : run.settings.skip = false)
    (valid : run.settings.validate = .ok ()) : ∃ found,
      (FileSet.discover run.settings.fileSets run.tree).Yields found ∧
        run.execute.Yields (found.mapError RunError.discovery >>= fun paths =>
          (run.answer paths).map fun results => .completed ⟨results.toArray⟩) := by
  obtain ⟨found, searches⟩ := FileSet.course_discover run.settings.fileSets run.tree
  have searched := Course.yields searches
  refine ⟨found, searched, ?_⟩
  have tested : ∀ paths, Yields (run.testFiles paths >>= fun collector =>
      pure (Outcome.completed collector))
        ((run.answer paths).map fun results => .completed ⟨results.toArray⟩) := by
    intro paths
    have completed := (run.yields_testFiles paths).bind fun collector =>
      Yields.pure (Outcome.completed collector)
    cases answered : run.answer paths with
    | error error =>
      rw [answered] at completed
      exact completed
    | ok results =>
      rw [answered] at completed
      exact completed
  have checked : Yields (Log.attempt (run.settings.validate.mapError RunError.settings))
      (.ok ()) := by
    rw [valid]
    exact Yields.attempt _
  unfold execute
  rw [if_neg (Bool.eq_false_iff.1 unskipped)]
  exact checked.bind fun _ => (searched.adapt RunError.discovery).bind tested

/-- Something fails in a run for another reason than a rejection. -/
inductive Breaks (run : Run) : Prop where
  /-- The sources are not found. -/
  | discovery {error : DiscoveryError}
      (failed : (FileSet.discover run.settings.fileSets run.tree).Yields (.error error))
  /-- The grammar has no implementation. -/
  | resolution {identity : GrammarIdentity} {error : RunError}
      (named : run.settings.identity = .ok identity)
      (failed : (run.assemble identity).Yields (.error error))
  /-- Some source has no result: it is not read, there is no parser for it, or its start rule gives
  no verdict. -/
  | source {identity : GrammarIdentity} {assembly : Assembly} {paths : List String}
      {path : String} {error : RunError}
      (discovered : (FileSet.discover run.settings.fileSets run.tree).Yields (.ok paths))
      (named : run.settings.identity = .ok identity)
      (assembled : (run.assemble identity).Yields (.ok assembly)) (member : path ∈ paths)
      (failed : (run.testFile assembly path).Yields (.error error))

/-- The sources of a run are found and have results. -/
structure HasResults (run : Run) (paths : List String) (results : List SourceResult) : Prop where
  /-- The sources are found. -/
  discovered : (FileSet.discover run.settings.fileSets run.tree).Yields (.ok paths)
  /-- The implementations are found, and with them each source has its result. -/
  judged : ∃ identity assembly, run.settings.identity = .ok identity ∧
    run.assemblyOf identity = .ok assembly ∧
      List.Forall₂ (fun path result => run.judge assembly path = .ok result) paths results
  /-- The run says so. -/
  yields : run.execute.Yields (.ok (.completed ⟨results.toArray⟩))

/-- Results count the rejections among the sources of a run. -/
theorem HasResults.rejections {paths : List String} {results : List SourceResult}
    (has : run.HasResults paths results) :
    run.Rejections paths (results.filter SourceResult.hasFailed).length := by
  obtain ⟨identity, assembly, named, assembled, judged⟩ := has.judged
  exact rejections_of_judged named assembled judged

/-- What a run answers on sources is what becomes of them with the implementations of its
grammar. -/
theorem answer_eq (named : run.settings.identity = .ok identity) (paths : List String) :
    run.answer paths =
      (run.assemblyOf identity >>= fun assembly => paths.mapM (run.judge assembly)) := by
  rw [answer, assembly?, named]
  rfl

/-- A run with settings that make sense ends with what it answers on the sources that it finds. -/
theorem yields_execute_of_discovered (unskipped : run.settings.skip = false)
    (valid : run.settings.validate = .ok ()) {paths : List String}
    (discovered : (FileSet.discover run.settings.fileSets run.tree).Yields (.ok paths)) :
    run.execute.Yields
      ((run.answer paths).map fun results => .completed ⟨results.toArray⟩) := by
  obtain ⟨found, searched, yields⟩ := yields_execute unskipped valid
  cases searched.unique discovered
  simpa only [Except.mapError, bind, Except.bind] using yields

/-- A run whose sources are found and have results says so. -/
theorem hasResults_of_mapM (unskipped : run.settings.skip = false)
    (valid : run.settings.validate = .ok ()) {paths : List String} {results : List SourceResult}
    (discovered : (FileSet.discover run.settings.fileSets run.tree).Yields (.ok paths))
    (named : run.settings.identity = .ok identity)
    (assembled : run.assemblyOf identity = .ok assembly)
    (judged : paths.mapM (run.judge assembly) = .ok results) : run.HasResults paths results := by
  have ended := yields_execute_of_discovered unskipped valid discovered
  have answered := answer_eq named paths
  rw [assembled] at answered
  rw [answered.trans judged] at ended
  exact ⟨discovered, ⟨identity, assembly, named, assembled, mapM_eq_ok_iff.1 judged⟩, ended⟩

/-- A run with settings that make sense breaks and ends with an error, or it has results. -/
theorem breaks_or_hasResults (unskipped : run.settings.skip = false)
    (valid : run.settings.validate = .ok ()) (named : run.settings.identity = .ok identity) :
    (run.Breaks ∧ ∃ error, run.execute.Yields (.error error)) ∨
      ∃ paths results, run.HasResults paths results := by
  obtain ⟨found, discovered, yields⟩ := yields_execute unskipped valid
  have assembled := run.yields_assemble identity
  cases found with
  | error error => exact .inl ⟨.discovery discovered, _, yields⟩
  | ok paths =>
    have ended := yields_execute_of_discovered unskipped valid discovered
    have answered := answer_eq named paths
    cases resolved : run.assemblyOf identity with
    | error error =>
      rw [resolved] at assembled answered
      rw [answered] at ended
      exact .inl ⟨.resolution named assembled, error, ended⟩
    | ok assembly =>
      rw [resolved] at assembled answered
      cases judged : paths.mapM (run.judge assembly) with
      | error error =>
        rw [answered.trans judged] at ended
        obtain ⟨done, path, rest, rfl, -, fails⟩ := mapM_eq_error_iff.1 judged
        have tested := run.yields_testFile assembly path
        rw [fails] at tested
        exact .inl ⟨.source discovered named assembled List.mem_append_cons_self tested, error,
          ended⟩
      | ok results =>
        exact .inr ⟨paths, results, hasResults_of_mapM unskipped valid discovered named resolved
          judged⟩

/-- A run that breaks has no results. -/
theorem HasResults.not_breaks {paths : List String} {results : List SourceResult}
    (has : run.HasResults paths results) : ¬run.Breaks := by
  obtain ⟨identity, assembly, named, assembled, judged⟩ := has.judged
  intro breaks
  cases breaks with
  | discovery failed => cases has.discovered.unique failed
  | @resolution identity' _ named' failed =>
    cases named.symm.trans named'
    cases assembled.symm.trans ((run.yields_assemble identity).unique failed)
  | @source identity' assembly' paths' path _ discovered named' assembled' member failed =>
    cases named.symm.trans named'
    cases assembled.symm.trans ((run.yields_assemble identity).unique assembled')
    cases has.discovered.unique discovered
    obtain ⟨index, inside, rfl⟩ := List.getElem_of_mem member
    have same := judged.get inside (judged.length_eq ▸ inside)
    cases same.symm.trans ((run.yields_testFile assembly _).unique failed)

end Run

end Conformance
