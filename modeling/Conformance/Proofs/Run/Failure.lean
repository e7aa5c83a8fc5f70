import Conformance.Proofs.Discovery.Entered
import Conformance.Proofs.Run.Record

/-!
# The failure of a run

A run that fails enters its error once, where it comes up, after the rejections of the sources that
were tested before. Two kinds of errors are not entered at all: those of the settings, and a walk
of a directory that fails.
-/

namespace Conformance

open Log Log.Attempt

namespace RunError

/-- The error is neither one of the settings nor a walk that failed. -/
def isEntered : RunError → Bool
  | .settings _ => false
  | .discovery (.walkFailed _ _) => false
  | _ => true

/-- The code of an error is not that of a rejection. -/
theorem code_beq_sourceRejected (error : RunError) : (error.code == .sourceRejected) = false := by
  cases error with
  | settings cause => cases cause <;> rfl
  | discovery cause => cases cause <;> rfl
  | resolution cause => cases cause <;> rfl
  | assembly cause =>
    cases cause with
    | source cause => cases cause <;> rfl
    | construction cause => cases cause <;> rfl
  | invocation cause => cases cause <;> rfl

end RunError

namespace Run

variable (run : Run)

/-! ## The course of a run -/

/-- A run stops at an error after it has tested sources, and an event reports the error with what it
is about. -/
inductive Stops : RunError → List SourceResult → Event → Prop where
  /-- A directory does not exist. -/
  | directory {directory : String} {own : Event}
      (reports : own.Reports .directoryNotFound "Source directory not found" "directory"
        directory) : Stops (.discovery (.directoryNotFound directory)) [] own
  /-- A pattern is none. -/
  | pattern {pattern : String} {reason : Glob.Error} {own : Event}
      (reports : own.Reports .invalidPattern "Invalid file set pattern" "pattern" pattern) :
      Stops (.discovery (.invalidPattern pattern reason)) [] own
  /-- The grammar has no implementation. -/
  | symbol {error : RunError} {own : Event} (reports : ReportsSymbol error own) : Stops error [] own
  /-- A source has no result. -/
  | source {done rest : List String} {path : String} {assembly : Assembly}
      {results : List SourceResult} {error : RunError} {own : Event}
      (discovered : (FileSet.discover run.settings.fileSets run.tree).Yields
        (.ok (done ++ path :: rest)))
      (found : run.assembly? = .ok assembly)
      (tested : done.mapM (run.judge assembly) = .ok results)
      (fails : run.judge assembly path = .error error)
      (reports : run.ReportsSource assembly path error own) : Stops error results own

/-- A run fails with an error, with the failures that it has entered by then. -/
inductive Fails : RunError → List Event → Prop where
  /-- The settings make no sense. -/
  | settings (cause : SettingsError) : Fails (.settings cause) []
  /-- A directory cannot be walked. -/
  | walk (directory : String) (reason : WalkError) :
      Fails (.discovery (.walkFailed directory reason)) []
  /-- The run stops at an error that it enters. -/
  | stopped {error : RunError} {tested : List SourceResult} {own : Event}
      (stops : run.Stops error tested own) :
      Fails error ((tested.filter SourceResult.hasFailed).map
        (SourceResult.event run.settings.startRule) ++ [own])

/-- A search for sources that fails is a failure of the run. -/
theorem fails_of_discovery (error : DiscoveryError) (file : Option String) :
    run.Fails (.discovery error) ((error.entered file).filter Event.isError) := by
  cases error with
  | directoryNotFound directory =>
    have said : ((Event.error .directoryNotFound "Source directory not found").withContexts
        [("directory", directory)]).context? "directory" = some directory := rfl
    have reports := Event.reports_marked file .directoryNotFound "Source directory not found" said
    rw [DiscoveryError.entered, reports.filter_alone]
    exact .stopped (.directory reports)
  | invalidPattern pattern reason =>
    have said : ((Event.error .invalidPattern "Invalid file set pattern").withContexts
        [("pattern", pattern)]).context? "pattern" = some pattern := rfl
    have reports := Event.reports_marked file .invalidPattern "Invalid file set pattern" said
    rw [DiscoveryError.entered, reports.filter_alone]
    exact .stopped (.pattern reports)
  | walkFailed directory reason => exact .walk directory reason

/-- A run on sources that ends early is a failure of the run that discovered them. -/
theorem fails_of_endsEarly {run : Run} {paths : List String} {error : RunError}
    {failures : List Event}
    (discovered : (FileSet.discover run.settings.fileSets run.tree).Yields (.ok paths))
    (ends : run.EndsEarly paths error failures) : run.Fails error failures := by
  cases ends with
  | settings unnamed => exact .settings _
  | symbol reports => exact .stopped (.symbol reports)
  | source found breaks =>
    obtain ⟨done, path, rest, results, own, rfl, tested, fails, reports, rfl⟩ := breaks
    exact .stopped (.source discovered found tested fails reports)

/-- A run completes: it discovers sources, each of which has a result, and enters how many there are
before what is to tell of the results. -/
def Completes (file after : Option String) (collector : Collector) (events : List Event) : Prop :=
  ∃ paths results told,
    (FileSet.discover run.settings.fileSets run.tree).Yields (.ok paths) ∧
      run.answer paths = .ok results ∧ collector = ⟨results.toArray⟩ ∧
        run.TellsAll file after paths results told ∧
          events = FileSet.discoveredEvent file run.settings.fileSets paths :: told

/-- A run is skipped if its settings say so. Otherwise it completes, or fails with an error. -/
theorem course_execute (file : Option String) : ∃ outcome events after,
    run.execute.Course file events after outcome ∧ (after = file ∨ after = none) ∧
      (outcome = .ok .skipped → run.settings.skip = true) ∧
      (∀ collector, outcome = .ok (.completed collector) →
        run.Completes file after collector events) ∧
      ∀ error, outcome = .error error → run.Fails error (events.filter Event.isError) := by
  unfold execute
  by_cases skip : run.settings.skip = true
  · rw [if_pos skip]
    exact ⟨_, _, file, (Course.pure file Outcome.skipped).emit _ _, .inl rfl, fun _ => skip, nofun,
      nofun⟩
  · rw [if_neg skip]
    have checked := Course.attempt file (run.settings.validate.mapError RunError.settings)
    cases valid : run.settings.validate with
    | error cause =>
      rw [valid] at checked
      refine ⟨_, [], file, checked.bind_error, .inl rfl, nofun, nofun, fun _ same => ?_⟩
      cases same
      exact .settings cause
    | ok passed =>
      rw [valid] at checked
      obtain ⟨found, searches⟩ := FileSet.course_discover run.settings.fileSets run.tree
      have searched := (searches file).adapt RunError.discovery
      cases found with
      | error cause =>
        refine ⟨_, _, file, checked.bind searched.bind_error, .inl rfl, nofun, nofun,
          fun _ same => ?_⟩
        cases same
        exact run.fails_of_discovery cause file
      | ok paths =>
        have discovered := Course.yields searches
        obtain ⟨told, after, tested, left, tells, breaks⟩ := run.course_testFiles paths file
        cases answered : run.answer paths with
        | error error =>
          rw [answered] at tested
          refine ⟨_, _, after, checked.bind (searched.bind tested.bind_error), left, nofun, nofun,
            fun _ same => ?_⟩
          cases same
          have harmless := Bool.eq_false_iff.1
            (FileSet.isError_discoveredEvent file run.settings.fileSets paths)
          rw [List.nil_append, FileSet.searchEvents, List.singleton_append,
            List.filter_cons_of_neg harmless]
          exact fails_of_endsEarly discovered (breaks error answered)
        | ok results =>
          rw [answered] at tested
          have completed : Course (run.testFiles paths >>= fun collector =>
              pure (Outcome.completed collector)) file (told ++ []) after
                (.ok (.completed ⟨results.toArray⟩)) := tested.bind (Course.pure after _)
          refine ⟨_, _, after, checked.bind (searched.bind completed), left, nofun,
            fun collector same => ?_, nofun⟩
          cases same
          refine ⟨paths, results, told, discovered, answered, rfl, tells results answered, ?_⟩
          rw [List.append_nil]
          rfl

/-! ## Errors that are entered -/

/-- A run that stops at an error enters it: the event is a failure with the code of the error. -/
theorem Stops.reported {run : Run} {error : RunError} {tested : List SourceResult} {own : Event}
    (stops : run.Stops error tested own) :
    error.isEntered = true ∧ own.isError = true ∧ own.code = error.code := by
  cases stops with
  | directory reports => exact ⟨rfl, reports.isError, reports.code⟩
  | pattern reports => exact ⟨rfl, reports.isError, reports.code⟩
  | symbol reported =>
    obtain ⟨cause, rfl, reports⟩ := reported
    exact ⟨rfl, reports.isError, reports.code⟩
  | source discovered found tested fails reported =>
    cases reported with
    | parser reports => exact ⟨rfl, reports.isError, reports.code⟩
    | verdict built reports => exact ⟨rfl, reports.isError, reports.code⟩

/-- None of the rejections has the code of an error that ends a run. -/
theorem filter_code_rejections (rule : String) (error : RunError) (tested : List SourceResult) :
    ((tested.filter SourceResult.hasFailed).map (SourceResult.event rule)).filter
      (·.code == error.code) = [] := by
  rw [List.filter_eq_nil_iff]
  intro event member
  obtain ⟨result, kept, rfl⟩ := List.mem_map.1 member
  rw [SourceResult.code_event, if_pos (List.mem_filter.1 kept).2, beq_iff_eq]
  intro same
  have apart := error.code_beq_sourceRejected
  rw [← same] at apart
  cases apart

/-- The error of a run is logged once, where the run stops. The other failures are the rejections of
the sources that were tested before, in their order. -/
def LogsOnce (error : RunError) (events : List Event) : Prop :=
  ∃ tested own, run.Stops error tested own ∧
    events.filter (fun event => event.isError && event.code == error.code) = [own] ∧
      events.filter Event.isError = (tested.filter SourceResult.hasFailed).map
        (SourceResult.event run.settings.startRule) ++ [own]

/-- The error of a run that fails is logged once, unless it is one of the settings or a walk that
failed. In that case no failure is logged at all. -/
theorem execute_logsOnce_iff {run : Run} {journal after : Journal} {error : RunError}
    (failed : run.execute.run.run journal = (.error error, after)) :
    ∃ events, after.events = journal.events ++ events.toArray ∧
      (run.LogsOnce error events ↔ error.isEntered = true) ∧
        (error.isEntered = false → events.filter Event.isError = []) := by
  obtain ⟨outcome, events, left, course, -, -, -, fails⟩ := run.course_execute journal.file
  have ran := course journal.events
  rw [failed] at ran
  cases ran
  have broke := fails error rfl
  have entered : run.LogsOnce error events → error.isEntered = true := by
    intro once
    obtain ⟨tested, own, stops, -⟩ := once
    exact stops.reported.1
  refine ⟨events, rfl, ?_⟩
  generalize listed : events.filter Event.isError = failures at broke
  cases broke with
  | settings cause => exact ⟨⟨entered, nofun⟩, fun _ => rfl⟩
  | walk directory reason => exact ⟨⟨entered, nofun⟩, fun _ => rfl⟩
  | @stopped error tested own stops =>
    obtain ⟨counted, failure, code⟩ := stops.reported
    have single : events.filter (fun event => event.isError && event.code == error.code) =
        [own] := by
      have both : events.filter (fun event => event.isError && event.code == error.code) =
          (events.filter Event.isError).filter (·.code == error.code) := by
        rw [List.filter_filter]
        simp only [Bool.and_comm]
      have matching : [own].filter (·.code == error.code) = [own] := by simp [code]
      rw [both, listed, List.filter_append, filter_code_rejections, List.nil_append, matching]
    refine ⟨⟨entered, fun _ => ⟨tested, own, stops, single, listed⟩⟩, fun silent => ?_⟩
    rw [counted] at silent
    cases silent

/-- A run of a grammar that is not registered. -/
def ofUnknown : Run where
  settings := ⟨"startRule", "Snafu", "foo.bar.baz", "utf-8", false, [], ⟨"info", false⟩⟩
  registry := ⟨[]⟩
  tree := ⟨.directory [], []⟩

/-- That a grammar is not registered is logged once. -/
theorem execute_logsOnce_unknown : ∃ error after events,
    ofUnknown.execute.run.run .empty = (.error error, after) ∧
      error.code = .symbolNotFound ∧ after.events = events.toArray ∧
        ofUnknown.LogsOnce error events := by
  let name := qualifiedName "foo.bar.baz" "Snafu" Role.lexer.suffix
  have failed : (ofUnknown.execute.run.run .empty).1 =
      .error (.resolution (.notFound name [])) := by rfl
  have ran : ofUnknown.execute.run.run .empty =
      (.error (.resolution (.notFound name [])), (ofUnknown.execute.run.run .empty).2) := by
    rw [← failed]
    rfl
  obtain ⟨events, entered, once, -⟩ := execute_logsOnce_iff ran
  refine ⟨_, _, events, ran, rfl, ?_, once.2 rfl⟩
  rw [entered]
  exact Array.empty_append

/-- A run on a directory that holds a link to nowhere. -/
def ofDangling : Run where
  settings := ⟨"startRule", "Snafu", "foo.bar.baz", "utf-8", false, [.ofDirectory "d"],
    ⟨"info", false⟩⟩
  registry := ⟨[]⟩
  tree := ⟨.directory [("d", .directory [("gone", .link "nowhere")])], []⟩

/-- The directory can be entered, but the link in it leads nowhere. -/
theorem resolve_dangling :
    ofDangling.tree.resolve "d" = .ok (["d"], .directory [("gone", .link "nowhere")]) ∧
      ofDangling.tree.resolve "d/gone" = .error .notFound := by
  have root : ofDangling.tree.root.find? ofDangling.tree.start =
      some (.directory [("d", .directory [("gone", .link "nowhere")])]) := rfl
  have inside : ofDangling.tree.root.find? ["d"] =
      some (.directory [("gone", .link "nowhere")]) := rfl
  have top : Path.texts "d" = ["d"] := by decide
  have below : Path.texts "d/gone" = ["d", "gone"] := by decide
  have beyond : Path.texts "nowhere" = ["nowhere"] := by decide
  have relative : Path.isAbsolute "nowhere" = false := by decide
  have named : ∀ name ∈ ["d", "gone", "nowhere"], name ∉ ["", ".", ".."] := by decide
  have short : ∀ name ∈ ["d", "gone", "nowhere"], name.utf8ByteSize ≤ FileTree.nameLimit := by
    decide
  constructor
  · rw [FileTree.resolve, if_neg (by decide), if_neg (by decide), if_neg (by decide), top,
      if_neg (by decide),
      FileTree.follow_cons _ root (named "d" (by decide)) (short "d" (by decide))]
    show FileTree.follow ofDangling.tree.root FileTree.linkLimit ["d"] [] = _
    rw [FileTree.follow]
    rfl
  · rw [FileTree.resolve, if_neg (by decide), if_neg (by decide), if_neg (by decide), below,
      if_neg (by decide),
      FileTree.follow_cons _ root (named "d" (by decide)) (short "d" (by decide))]
    show FileTree.follow ofDangling.tree.root FileTree.linkLimit ["d"] ["gone"] = _
    rw [FileTree.follow_cons _ inside (named "gone" (by decide)) (short "gone" (by decide))]
    show FileTree.follow ofDangling.tree.root 39
      (if Path.isAbsolute "nowhere" then [] else ["d"]) (Path.texts "nowhere" ++ []) = _
    rw [relative, beyond]
    show FileTree.follow ofDangling.tree.root 39 ["d"] ["nowhere"] = _
    rw [FileTree.follow_cons _ inside (named "nowhere" (by decide)) (short "nowhere" (by decide))]
    rfl

/-- The walk of the directory ends at the link. -/
theorem walk_dangling :
    ofDangling.tree.walk "d" = .error (.unreachable "d/gone" .notFound) := by
  have count : ofDangling.tree.root.directoryCount = 2 := by decide
  have steps : (2 + 1) * (2 + 1) = 8 + 1 := rfl
  have joined : Path.join "d" "gone" = "d/gone" := by decide
  rw [FileTree.walk, resolve_dangling.1]
  simp only [count]
  rw [steps, FileTree.walkFrom]
  simp only [Node.entries, List.mapM_cons, joined, resolve_dangling.2]
  rfl

/-- A walk that comes to a link to nowhere ends the run, and nothing is logged. -/
theorem not_logsOnce_dangling :
    ofDangling.execute.run.run .empty =
        (.error (.discovery (.walkFailed "d" (.unreachable "d/gone" .notFound))), .empty) ∧
      ¬ofDangling.LogsOnce (.discovery (.walkFailed "d" (.unreachable "d/gone" .notFound))) [] := by
  let error : DiscoveryError := .walkFailed "d" (.unreachable "d/gone" .notFound)
  have directory : ofDangling.tree.isDirectory "d" = true := by
    rw [FileTree.isDirectory, resolve_dangling.1]
    rfl
  have read : (FileSet.readPatterns FileSet.everything).Course none [] none
      (.ok [⟨[.parts, .run]⟩]) := by
    have everything : Glob.ofText "**/*" = .ok ⟨[.parts, .run]⟩ := by decide +kernel
    rw [FileSet.everything, FileSet.readPatterns, everything]
    exact (Course.pure none []).bind (Course.pure none _)
  have scanned : ((FileSet.ofDirectory "d").scan ofDangling.tree).Course none [] none
      (.error error) := by
    unfold FileSet.scan FileSet.ofDirectory
    simp only [directory, walk_dangling]
    exact read.bind ((Course.pure none []).bind (Course.throw none error))
  have all : (FileSet.scanAll ofDangling.tree [.ofDirectory "d"]).Course none [] none
      (.error error) := scanned.bind_error
  have searched : (FileSet.discover [.ofDirectory "d"] ofDangling.tree).Course none [] none
      (.error error) := all.bind_error
  have tested : Course (do
      let paths ← (FileSet.discover [.ofDirectory "d"] ofDangling.tree).adapt RunError.discovery
      return Outcome.completed (← ofDangling.testFiles paths)) none [] none
        (.error (.discovery error)) := (searched.adapt RunError.discovery).bind_error
  have checked : Course (attempt (ofDangling.settings.validate.mapError RunError.settings)) none []
      none (.ok ()) := Course.attempt none _
  have ended : ofDangling.execute.Course none [] none (.error (.discovery error)) := by
    unfold execute
    rw [if_neg (by decide)]
    exact checked.bind tested
  refine ⟨ended #[], fun once => ?_⟩
  obtain ⟨done, own, -, -, listed⟩ := once
  exact List.append_ne_nil_of_right_ne_nil _ (List.cons_ne_nil own []) listed.symm

end Run

end Conformance
