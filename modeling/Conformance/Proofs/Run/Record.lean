import Conformance.Proofs.Run.Composition
import Conformance.Proofs.Run.Entered

/-!
# The record of a run

While sources are tested, their results are collected and events are entered. Both tell the same:
each source is entered with its path, the size of its text, its parser and its verdict, and nothing
is entered beside that except the implementations before the first source and the counts after the
last one. No file is current between two sources, so no event is marked with a file of another
source.
-/

namespace Conformance

open Log Log.Attempt

namespace Run

variable (run : Run)

/-! ## The implementations -/

/-- The events of the implementations of a grammar. -/
def foundEvents (file : Option String) (identity : GrammarIdentity) : List Event :=
  Registry.foundEvents file (qualifiedName identity.scope identity.name Role.lexer.suffix) .lexer ++
    Registry.foundEvents file (qualifiedName identity.scope identity.name Role.parser.suffix)
      .parser

/-- The events of the implementations of a grammar are routine. -/
theorem routine_of_mem_foundEvents {file : Option String} {identity : GrammarIdentity}
    {event : Event} (member : event ∈ foundEvents file identity) : event.Routine := by
  rcases List.mem_append.1 member with lexer | parser
  · exact Registry.routine_of_mem_foundEvents file lexer
  · exact Registry.routine_of_mem_foundEvents file parser

/-- An event reports why a grammar has no implementation. -/
def ReportsSymbol (error : RunError) (own : Event) : Prop :=
  ∃ cause, error = .resolution cause ∧ own.Reports cause.code cause.message "symbol" cause.symbol

/-- Finding the implementations of a grammar enters their events, or reports why there is none. -/
theorem accounts_assemble (file : Option String) (identity : GrammarIdentity) :
    (run.assemble identity).Accounts file file (run.assemblyOf identity)
      (fun _ events => events = foundEvents file identity) ReportsSymbol := by
  have lexer := (run.registry.accounts_resolveLexer file identity).adapt
    RunError.resolution ReportsSymbol fun cause own reports => ⟨cause, rfl, reports⟩
  have parser := (run.registry.accounts_resolveParser file identity).adapt
    RunError.resolution ReportsSymbol fun cause own reports => ⟨cause, rfl, reports⟩
  have quiet : ∀ name role, (Registry.foundEvents file name role).filter Event.isError = [] := by
    intro name role
    apply Event.filter_routine fun event => Event.Routine.isError
    exact fun event => Registry.routine_of_mem_foundEvents file
  have joined : ∀ assembly : Assembly, Accounts (pure assembly : Attempt RunError Assembly) file
      file (.ok assembly) (fun _ events => events = []) ReportsSymbol :=
    fun assembly => .of_ok (Course.pure file assembly) rfl
  have assembled := lexer.bind (fun _ _ told => told ▸ quiet _ _) (.inl rfl) fun found _ =>
    parser.bind (fun _ _ told => told ▸ quiet _ _) (.inl rfl) fun found' _ =>
      joined ⟨found.1, found.2, found'.1, found'.2⟩
  apply assembled.mono
  rintro assembly events ⟨-, before, rest, rfl, ⟨-, after, last, rfl, rfl, rfl⟩, rfl⟩
  rw [List.append_nil, foundEvents]

/-! ## A single source -/

/-- The event that the test of a source begins. -/
def startedEvent (file : Option String) (path : String) : Event :=
  (Event.info ("Parse file '" ++ Path.join run.tree.startPath path ++ "'...")).marked file []

/-- That the test of a source begins is routine. -/
theorem routine_startedEvent (file : Option String) (path : String) :
    (run.startedEvent file path).Routine := by
  apply Event.Routine.marked
  exact ⟨.inl rfl, List.mem_cons_self⟩

/-- The events of a source that has a result are told: the test began, the bytes of the source were
decoded, a parser was built, and there is a verdict. -/
def TellsSource (assembly : Assembly) (file : Option String) (path : String)
    (result : SourceResult) (events : List Event) : Prop :=
  ∃ encoding bytes text,
    SourceFile.decode ⟨path, run.settings.encoding⟩ run.tree = .ok (encoding, bytes, text) ∧
      events = [run.startedEvent file path,
        SourceFile.decodedEvent ⟨path, run.settings.encoding⟩ encoding bytes,
        assembly.builtEvent result.file, result.event run.settings.startRule]

/-- An event reports why a source has no result: under its path when there is no parser for it, and
under the name of the source when its start rule gives no verdict. -/
inductive ReportsSource (assembly : Assembly) (path : String) : RunError → Event → Prop where
  /-- There is no parser. -/
  | parser {cause : AssemblyError} {own : Event}
      (reports : own.Reports cause.code cause.message "file" path) :
      ReportsSource assembly path (.assembly cause) own
  /-- There is no verdict. -/
  | verdict {parser : Parser} {cause : InvocationError} {own : Event}
      (built : assembly.parserOf run.tree ⟨path, run.settings.encoding⟩ = .ok parser)
      (reports : own.Reports cause.code cause.message "file" parser.sourceName) :
      ReportsSource assembly path (.invocation cause) own

/-- Testing a source enters the events of its result, or reports why it has none. -/
theorem accounts_testFile (assembly : Assembly) (file : Option String) (path : String) :
    (run.testFile assembly path).Accounts file none (run.judge assembly path)
      (run.TellsSource assembly file path) (run.ReportsSource assembly path) := by
  have built := (assembly.accounts_build run.tree ⟨path, run.settings.encoding⟩ file).adapt
    RunError.assembly (run.ReportsSource assembly path) fun cause own reports => .parser reports
  have quiet : ∀ (parser : Parser) (events : List Event), (∃ encoding bytes text,
      SourceFile.decode ⟨path, run.settings.encoding⟩ run.tree = .ok (encoding, bytes, text) ∧
        events = [SourceFile.decodedEvent ⟨path, run.settings.encoding⟩ encoding bytes,
          assembly.builtEvent parser.sourceName]) → events.filter Event.isError = [] := by
    rintro parser events ⟨encoding, bytes, text, -, rfl⟩
    rfl
  have judged := built.bind quiet (.inl rfl) fun parser found =>
    (parser.accounts_test run.settings.startRule file).adapt RunError.invocation
      (run.ReportsSource assembly path) fun cause own reports =>
        .verdict (Log.eq_ok_of_mapError found) reports
  have started := judged.emit
    (.info ("Parse file '" ++ Path.join run.tree.startPath path ++ "'...")) [] rfl
  apply started.mono
  rintro result events ⟨rest, ⟨parser, before, last, ⟨encoding, bytes, text, read, rfl⟩,
    ⟨source, rfl⟩, rfl⟩, rfl⟩
  rw [TellsSource, source]
  exact ⟨encoding, bytes, text, read, rfl⟩

/-- What is looked for among the events of a source with a result is found in its verdict if it is
never routine. -/
theorem TellsSource.filter {run : Run} {assembly : Assembly} {file : Option String} {path : String}
    {result : SourceResult} {events : List Event}
    (tells : run.TellsSource assembly file path result events) {wanted : Event → Bool}
    (overlooks : ∀ event : Event, event.Routine → wanted event = false) :
    events.filter wanted = [result.event run.settings.startRule].filter wanted := by
  obtain ⟨encoding, bytes, text, -, rfl⟩ := tells
  let source : SourceFile := ⟨path, run.settings.encoding⟩
  have routine : ∀ event ∈ [run.startedEvent file path, source.decodedEvent encoding bytes,
      assembly.builtEvent result.file], event.Routine := by
    simp only [List.forall_mem_cons, List.not_mem_nil, false_imp_iff, implies_true, and_true]
    exact ⟨run.routine_startedEvent file path, source.routine_decodedEvent encoding bytes,
      assembly.routine_builtEvent result.file⟩
  have split : [run.startedEvent file path, source.decodedEvent encoding bytes,
      assembly.builtEvent result.file, result.event run.settings.startRule] =
        [run.startedEvent file path, source.decodedEvent encoding bytes,
          assembly.builtEvent result.file] ++ [result.event run.settings.startRule] := rfl
  rw [split, List.filter_append, Event.filter_routine overlooks routine, List.nil_append]

/-! ## One source after the other -/

/-- The events of sources that have results are told one source after the other. Only the test of
the first one may find another file current. -/
inductive Tells (assembly : Assembly) :
    Option String → List String → List SourceResult → List Event → Prop where
  /-- Without sources there are no events. -/
  | nil (file : Option String) : Tells assembly file [] [] []
  /-- The events of a source come before those of the sources after it. -/
  | cons {file : Option String} {path : String} {paths : List String} {result : SourceResult}
      {results : List SourceResult} {own events : List Event}
      (source : run.TellsSource assembly file path result own)
      (others : Tells assembly none paths results events) :
      Tells assembly file (path :: paths) (result :: results) (own ++ events)

/-- What is looked for among the events of sources with results is found in their verdicts if it is
never routine. -/
theorem Tells.filter {run : Run} {assembly : Assembly} {file : Option String} {paths : List String}
    {results : List SourceResult} {events : List Event}
    (tells : run.Tells assembly file paths results events) {wanted : Event → Bool}
    (overlooks : ∀ event : Event, event.Routine → wanted event = false) :
    events.filter wanted =
      (results.map (SourceResult.event run.settings.startRule)).filter wanted := by
  induction tells with
  | nil file => rfl
  | cons source others ih =>
    rw [List.filter_append, source.filter overlooks, ih, ← List.filter_append, List.map_cons]
    rfl

/-- A test of sources breaks off at one that has no result. The failures that it has entered by
then are the rejections of the sources before it, in their order, and the report why it has none. -/
def BreaksOff (assembly : Assembly) (paths : List String) (error : RunError)
    (failures : List Event) : Prop :=
  ∃ done path rest results own, paths = done ++ path :: rest ∧
    done.mapM (run.judge assembly) = .ok results ∧ run.judge assembly path = .error error ∧
      run.ReportsSource assembly path error own ∧
        failures = (results.filter SourceResult.hasFailed).map
          (SourceResult.event run.settings.startRule) ++ [own]

/-- Testing sources one after the other enters the events of their results, or what there is up to
the first one that has none. -/
theorem course_testFrom (assembly : Assembly) (paths : List String) :
    ∀ (file : Option String) (collector : Collector), ∃ events after,
      (run.testFrom assembly collector paths).Course file events after
          ((paths.mapM (run.judge assembly)).map fun results =>
            ⟨collector.results ++ results.toArray⟩) ∧
        (after = file ∨ after = none) ∧
        (∀ results, paths.mapM (run.judge assembly) = .ok results →
          run.Tells assembly file paths results events) ∧
        ∀ error, paths.mapM (run.judge assembly) = .error error →
          run.BreaksOff assembly paths error (events.filter Event.isError) := by
  induction paths with
  | nil =>
    intro file collector
    have same : (⟨collector.results ++ #[]⟩ : Collector) = collector := by rw [Array.append_empty]
    have returned := Course.pure (ε := RunError) file collector
    rw [← same] at returned
    refine ⟨[], file, returned, .inl rfl, fun results judged => ?_, fun error failed => ?_⟩
    · cases judged
      exact .nil file
    · cases failed
  | cons path paths ih =>
    intro file collector
    obtain ⟨own, between, tested, told, broken⟩ := run.accounts_testFile assembly file path
    rw [List.mapM_cons]
    cases judged : run.judge assembly path with
    | error error =>
      rw [judged] at tested
      obtain ⟨left, report, single, reports⟩ := broken error judged
      refine ⟨own, between, tested.bind_error, left, fun _ returned => ?_, fun _ failed => ?_⟩
      · cases returned
      · cases failed
        exact ⟨[], path, paths, [], report, rfl, rfl, judged, reports, single⟩
    | ok result =>
      rw [judged] at tested
      obtain ⟨rfl, tells⟩ := told result judged
      obtain ⟨events, after, rest, left, listed, breaks⟩ := ih none (collector.add result)
      have cleared : after = none := or_self_iff.1 left
      have whole : Course (run.testFrom assembly collector (path :: paths)) file (own ++ events)
          after _ := tested.bind rest
      cases others : paths.mapM (run.judge assembly) with
      | error error =>
        rw [others] at whole
        refine ⟨own ++ events, after, whole, .inr cleared, fun _ returned => ?_, fun _ failed => ?_⟩
        · cases returned
        · cases failed
          obtain ⟨done, broken, later, results, report, rfl, fine, fails, reports, single⟩ :=
            breaks error others
          refine ⟨path :: done, broken, later, result :: results, report, rfl, ?_, fails, reports,
            ?_⟩
          · rw [List.mapM_cons, judged, fine]
            rfl
          · have here : own.filter Event.isError = ([result].filter SourceResult.hasFailed).map
                (SourceResult.event run.settings.startRule) := by
              rw [tells.filter fun event => Event.Routine.isError,
                ← SourceResult.filter_isError_map_event]
              rfl
            rw [List.filter_append, here, single, ← List.append_assoc, ← List.map_append,
              ← List.filter_append]
            rfl
      | ok results =>
        rw [others] at whole
        have joined : (collector.add result).results ++ results.toArray =
            collector.results ++ (result :: results).toArray := by
          simp [Collector.add]
        have returned : (Except.ok results).map (fun results =>
            (⟨(collector.add result).results ++ results.toArray⟩ : Collector)) =
              (Except.ok (ε := RunError) (result :: results)).map fun results =>
                ⟨collector.results ++ results.toArray⟩ :=
          congrArg (fun all => Except.ok (Collector.mk all)) joined
        rw [returned] at whole
        refine ⟨own ++ events, after, whole, .inr cleared, fun _ ended => ?_, fun _ failed => ?_⟩
        · cases ended
          exact .cons tells (listed results others)
        · cases failed

/-! ## Whole runs -/

/-- The event of a run that is completed. -/
def completedEvent (file : Option String) (identity : GrammarIdentity) (collector : Collector) :
    Event :=
  (Event.success .runCompleted "Conformance run completed").marked file
    [("grammar", identity.name), ("sources", toString collector.count),
      ("failed", toString collector.countFailed)]

/-- The events of a run on sources that have results are told: the implementations that were found,
the sources, and the counts. -/
def TellsAll (file after : Option String) (paths : List String) (results : List SourceResult)
    (events : List Event) : Prop :=
  ∃ identity assembly told, run.settings.identity = .ok identity ∧
    run.assemblyOf identity = .ok assembly ∧ run.Tells assembly file paths results told ∧
      events = foundEvents file identity ++ told ++
        [completedEvent after identity ⟨results.toArray⟩]

/-- A run on sources ends early, with the failures that it has entered by then. -/
inductive EndsEarly (paths : List String) : RunError → List Event → Prop where
  /-- The settings name no grammar. -/
  | settings {cause : SettingsError} (unnamed : run.settings.identity = .error cause) :
      EndsEarly paths (.settings cause) []
  /-- The grammar has no implementation. -/
  | symbol {error : RunError} {own : Event} (reports : ReportsSymbol error own) :
      EndsEarly paths error [own]
  /-- A source has no result. -/
  | source {assembly : Assembly} {error : RunError} {failures : List Event}
      (found : run.assembly? = .ok assembly)
      (breaks : run.BreaksOff assembly paths error failures) : EndsEarly paths error failures

/-- Testing sources and counting them enters the events of their results and the counts, or what
there is up to the first source that has no result. -/
theorem course_testCounted (identity : GrammarIdentity) (assembly : Assembly) (paths : List String)
    (file : Option String) : ∃ events after,
      Course (do
          let collector ← run.testFrom assembly .empty paths
          emit (.success .runCompleted "Conformance run completed")
            [("grammar", identity.name), ("sources", toString collector.count),
              ("failed", toString collector.countFailed)]
          return collector) file events after
          ((paths.mapM (run.judge assembly)).map fun results => ⟨results.toArray⟩) ∧
        (after = file ∨ after = none) ∧
        (∀ results, paths.mapM (run.judge assembly) = .ok results →
          ∃ told, run.Tells assembly file paths results told ∧
            events = told ++ [completedEvent after identity ⟨results.toArray⟩]) ∧
        ∀ error, paths.mapM (run.judge assembly) = .error error →
          run.BreaksOff assembly paths error (events.filter Event.isError) := by
  obtain ⟨told, after, tested, left, tells, breaks⟩ :=
    run.course_testFrom assembly paths file .empty
  cases judged : paths.mapM (run.judge assembly) with
  | error error =>
    rw [judged] at tested
    refine ⟨told, after, tested.bind_error, left, nofun, fun _ same => ?_⟩
    cases same
    exact breaks error judged
  | ok results =>
    have all : Except.map (fun results =>
        (⟨Collector.empty.results ++ results.toArray⟩ : Collector)) (Except.ok results) =
          .ok (ε := RunError) ⟨results.toArray⟩ :=
      congrArg (fun all => Except.ok (Collector.mk all)) Array.empty_append
    rw [judged, all] at tested
    refine ⟨_, after, tested.bind ((Course.pure after _).emit _ _), left, fun _ same => ?_, nofun⟩
    cases same
    exact ⟨told, tells results judged, rfl⟩

/-- A run on sources enters what it is to tell of their results, or what there is up to its early
end. -/
theorem course_testFiles (paths : List String) (file : Option String) : ∃ events after,
    (run.testFiles paths).Course file events after
        ((run.answer paths).map fun results => ⟨results.toArray⟩) ∧
      (after = file ∨ after = none) ∧
      (∀ results, run.answer paths = .ok results → run.TellsAll file after paths results events) ∧
      ∀ error, run.answer paths = .error error →
        run.EndsEarly paths error (events.filter Event.isError) := by
  have named := Course.attempt file (run.settings.identity.mapError RunError.settings)
  unfold testFiles
  cases identified : run.settings.identity with
  | error cause =>
    have answered : run.answer paths = .error (.settings cause) := by
      rw [answer, assembly?, identified]
      rfl
    rw [identified] at named
    rw [answered]
    refine ⟨[], file, named.bind_error, .inl rfl, fun _ returned => ?_, fun _ failed => ?_⟩
    · cases returned
    · cases failed
      exact .settings identified
  | ok identity =>
    rw [identified] at named
    obtain ⟨opening, between, assembled, found, missing⟩ := run.accounts_assemble file identity
    have same : run.assembly? = run.assemblyOf identity := by
      rw [assembly?, identified]
      rfl
    cases resolved : run.assemblyOf identity with
    | error error =>
      have answered : run.answer paths = .error error := by
        rw [answer, same, resolved]
        rfl
      rw [resolved] at assembled
      rw [answered]
      obtain ⟨left, own, single, reports⟩ := missing error resolved
      refine ⟨opening, between, named.bind assembled.bind_error, left, fun _ returned => ?_,
        fun _ failed => ?_⟩
      · cases returned
      · cases failed
        rw [single]
        exact .symbol reports
    | ok assembly =>
      have answered : run.answer paths = paths.mapM (run.judge assembly) := by
        rw [answer, same, resolved]
        rfl
      rw [resolved] at assembled
      rw [answered]
      obtain ⟨rfl, rfl⟩ := found assembly resolved
      obtain ⟨told, after, tested, left, tells, breaks⟩ :=
        run.course_testCounted identity assembly paths between
      refine ⟨_, after, named.bind (assembled.bind tested), left, fun results judged => ?_,
        fun error judged => ?_⟩
      · obtain ⟨events, listed, rfl⟩ := tells results judged
        refine ⟨identity, assembly, events, identified, resolved, listed, ?_⟩
        rw [List.nil_append, List.append_assoc]
      · have quiet : (foundEvents between identity).filter Event.isError = [] :=
          Event.filter_routine (fun event => Event.Routine.isError)
            fun event => routine_of_mem_foundEvents
        rw [List.nil_append, List.filter_append, quiet, List.nil_append]
        exact .source (same.trans resolved) (breaks error judged)

/-- What is looked for among the events of a completed run is found in the verdicts on its sources
and in the counts if it is never routine. -/
theorem TellsAll.filter {run : Run} {file after : Option String} {paths : List String}
    {results : List SourceResult} {events : List Event}
    (tells : run.TellsAll file after paths results events) {wanted : Event → Bool}
    (overlooks : ∀ event : Event, event.Routine → wanted event = false) :
    ∃ identity, run.settings.identity = .ok identity ∧
      events.filter wanted =
        (results.map (SourceResult.event run.settings.startRule)).filter wanted ++
          [completedEvent after identity ⟨results.toArray⟩].filter wanted := by
  obtain ⟨identity, assembly, told, identified, -, listed, rfl⟩ := tells
  have opening : (foundEvents file identity).filter wanted = [] :=
    Event.filter_routine overlooks fun event => routine_of_mem_foundEvents
  refine ⟨identity, identified, ?_⟩
  rw [List.filter_append, List.filter_append, opening, List.nil_append, listed.filter overlooks]

/-! ## The record agrees with the results -/

/-- The events of a completed run agree with its results. -/
structure Records (paths : List String) (collector : Collector) (events : List Event) : Prop where
  /-- The failures are the rejected sources, each with its message, its file and the rule. -/
  rejections : events.filter Event.isError =
    collector.failures.map (SourceResult.event run.settings.startRule)
  /-- The acceptances are the other sources, each with its file and the rule. -/
  acceptances : events.filter (·.code == .sourceAccepted) =
    (collector.results.toList.filter (!·.hasFailed)).map (SourceResult.event run.settings.startRule)
  /-- The last event, and no other one, counts the sources. -/
  counts : ∃ grammar earlier, events = earlier ++ [⟨.info, .runCompleted,
      "Conformance run completed", [("failed", toString collector.countFailed),
        ("grammar", grammar), ("sources", toString collector.count)]⟩] ∧
    ∀ event ∈ earlier, event.code ≠ .runCompleted
  /-- Each source is told of without a file of another one, and what comes before the first source
  and after the last one names no file. -/
  files : ∃ opening assembly told closing, events = opening ++ told ++ closing ∧
    run.Tells assembly none paths collector.results.toList told ∧
      ∀ event ∈ opening ++ closing, event.context? "file" = none

/-- Where no file is current, what is entered before the first source and after the last one names
no file. -/
theorem unmarked (identity : GrammarIdentity) (collector : Collector) :
    ∀ event ∈ foundEvents none identity ++ [completedEvent none identity collector],
      event.context? "file" = none := by
  have found : ∀ name role, ∀ event ∈ Registry.foundEvents none name role,
      event.context? "file" = none := by
    intro name role
    rw [Registry.foundEvents, List.forall_mem_cons, List.forall_mem_singleton]
    constructor
    · exact Event.context?_withContexts_eq_none rfl (by simp)
    · exact Event.context?_withContexts_eq_none rfl (by simp)
  rw [foundEvents, List.forall_mem_append, List.forall_mem_append, List.forall_mem_singleton]
  exact ⟨⟨found _ _, found _ _⟩, Event.context?_withContexts_eq_none rfl (by simp)⟩

/-- Where no file is current, the counts of a completed run are entered as they are. -/
theorem completedEvent_none (identity : GrammarIdentity) (collector : Collector) :
    completedEvent none identity collector =
      ⟨.info, .runCompleted, "Conformance run completed",
        [("failed", toString collector.countFailed), ("grammar", identity.name),
          ("sources", toString collector.count)]⟩ := by
  have ordered : ["grammar", "sources"].Pairwise (· < ·) := by decide
  have before : "failed" < "grammar" := by decide
  have counted : (Event.success .runCompleted "Conformance run completed").withContexts
      [("grammar", identity.name), ("sources", toString collector.count)] = _ :=
    Event.withContexts_ascending _ _ _ ordered
  show Event.withContext (Event.withContexts _ [_, _]) "failed" _ = _
  rw [counted, Event.withContext, List.nil_append, Keyed.put_of_lt before]

/-- The events that a completed run is to tell agree with its results. -/
theorem TellsAll.records {run : Run} {paths : List String} {results : List SourceResult}
    {events : List Event} (tells : run.TellsAll none none paths results events) :
    run.Records paths ⟨results.toArray⟩ events := by
  have failed : events.filter Event.isError =
      (results.filter SourceResult.hasFailed).map
        (SourceResult.event run.settings.startRule) := by
    obtain ⟨identity, -, found⟩ := tells.filter fun event => Event.Routine.isError
    rw [found, completedEvent_none, SourceResult.filter_isError_map_event]
    exact List.append_nil _
  have passed : events.filter (·.code == .sourceAccepted) =
      (results.filter (!·.hasFailed)).map (SourceResult.event run.settings.startRule) := by
    have overlooks : ∀ event : Event, event.Routine → (event.code == .sourceAccepted) = false :=
      fun event routine => routine.code_beq (by decide)
    obtain ⟨identity, -, found⟩ := tells.filter overlooks
    rw [found, completedEvent_none, SourceResult.filter_accepted_map_event]
    exact List.append_nil _
  obtain ⟨identity, assembly, told, identified, -, listed, rfl⟩ := tells
  have earlier : ∀ event ∈ foundEvents none identity ++ told, event.code ≠ .runCompleted := by
    have overlooks : ∀ event : Event, event.Routine → (event.code == .runCompleted) = false :=
      fun event routine => routine.code_beq (by decide)
    have opening : (foundEvents none identity).filter (·.code == .runCompleted) = [] :=
      Event.filter_routine overlooks fun event => routine_of_mem_foundEvents
    have verdicts := listed.filter overlooks
    rw [SourceResult.filter_completed_map_event] at verdicts
    intro event member same
    have wanted : event ∈ (foundEvents none identity ++ told).filter (·.code == .runCompleted) :=
      List.mem_filter.2 ⟨member, beq_iff_eq.2 same⟩
    rw [List.filter_append, opening, verdicts] at wanted
    cases wanted
  exact ⟨failed, passed, ⟨identity.name, _, by rw [completedEvent_none], earlier⟩,
    _, assembly, told, _, rfl, listed, unmarked identity _⟩

/-- A run that starts without a current file leaves none, however it ends. If it is completed, its
events agree with its results. After a call of a start rule, whatever comes of it, no file is
current, and the one event of the call names the source. -/
theorem testFiles_records (run : Run) (paths : List String) (journal : Journal)
    (fresh : journal.file = none) :
    ((run.testFiles paths).run.run journal).2.file = none ∧
      (∀ collector after, (run.testFiles paths).run.run journal = (.ok collector, after) →
        ∃ events, after.events = journal.events ++ events.toArray ∧
          run.Records paths collector events) ∧
      ∀ (parser : Parser) (rule : String) (before : Journal), ∃ event,
        ((parser.test rule).run.run before).2 = ⟨before.events.push event, none⟩ ∧
          event.context? "file" = some parser.sourceName := by
  obtain ⟨events, current⟩ := journal
  cases fresh
  obtain ⟨told, after, course, left, tells, -⟩ := run.course_testFiles paths none
  have cleared : after = none := or_self_iff.1 left
  have ran := course events
  rw [cleared] at ran tells
  refine ⟨by rw [ran], fun collector after same => ?_, fun parser rule before => ?_⟩
  · rw [ran] at same
    cases answered : run.answer paths with
    | error error =>
      rw [answered] at same
      cases same
    | ok results =>
      rw [answered] at same
      cases same
      exact ⟨told, rfl, (tells results answered).records⟩
  · exact parser.event_test rule before

/-- A text of Word without its semicolon is entered as rejected, and the one after it as
accepted. -/
theorem testFiles_records_words : ∃ cause after,
    (ofWords.testFiles ["b", "a"]).run.run .empty =
        (.ok ⟨#[.rejected "b" cause, .accepted "a"]⟩, after) ∧
      after.file = none ∧ ∃ events, after.events = events.toArray ∧
        ofWords.Records ["b", "a"] ⟨#[.rejected "b" cause, .accepted "a"]⟩ events := by
  let cause : RecognitionError :=
    ⟨.mismatch "';'", (Token.eof ⟨1, 1⟩).number 1, [Word.semicolonKind]⟩
  have heldA : ofWords.tree.root.entries.lookup "a" = some (.file (.bytes ⟨#[97, 59]⟩)) := rfl
  have heldB : ofWords.tree.root.entries.lookup "b" = some (.file (.bytes ⟨#[98]⟩)) := rfl
  have textA : SourceFile.decode ⟨"a", ofWords.settings.encoding⟩ ofWords.tree =
      .ok (.utf8, ⟨#[97, 59]⟩, "a;") :=
    SourceFile.decode_name heldA (by decide) (by decide) (by decide) (by decide) (by decide)
      (by decide +kernel) (by decide +kernel)
  have textB : SourceFile.decode ⟨"b", ofWords.settings.encoding⟩ ofWords.tree =
      .ok (.utf8, ⟨#[98]⟩, "b") :=
    SourceFile.decode_name heldB (by decide) (by decide) (by decide) (by decide) (by decide)
      (by decide +kernel) (by decide +kernel)
  have judgedA : ofWords.judge wordAssembly "a" = .ok (.accepted "a") := by
    rw [judge, Assembly.parserOf, textA]
    decide +kernel
  have judgedB : ofWords.judge wordAssembly "b" = .ok (.rejected "b" cause) := by
    rw [judge, Assembly.parserOf, textB]
    decide +kernel
  have found : ofWords.assembly? = .ok wordAssembly := by rfl
  have returned : ofWords.returns ["b", "a"] .empty =
      .ok ⟨#[.rejected "b" cause, .accepted "a"]⟩ := by
    rw [returns_eq, answer, found]
    change (["b", "a"].mapM (ofWords.judge wordAssembly)).map _ = _
    rw [List.mapM_cons, judgedB, List.mapM_cons, judgedA]
    rfl
  have ran : (ofWords.testFiles ["b", "a"]).run.run .empty =
      (.ok ⟨#[.rejected "b" cause, .accepted "a"]⟩,
        ((ofWords.testFiles ["b", "a"]).run.run .empty).2) := by
    rw [← returned]
    rfl
  obtain ⟨cleared, records, -⟩ := testFiles_records ofWords ["b", "a"] .empty rfl
  obtain ⟨events, entered, agrees⟩ := records _ _ ran
  refine ⟨cause, _, ran, cleared, events, ?_, agrees⟩
  rw [entered]
  exact Array.empty_append

end Run

end Conformance
