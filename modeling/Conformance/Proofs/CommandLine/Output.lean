import Conformance.CommandLine.Program
import Conformance.Proofs.Log.Outcome

/-!
# What a command line writes

A command line that asks for a test writes the lines of its log and its report to the standard
output. Failures go to the standard error instead. So before the report there are the lines of the
other events that the log shows, and the banner of a report in text. Each event has come up at its
own look at the clock, and the report is made at the look after all of them.
-/

namespace Conformance

/-- The events that a run enters into a journal. -/
def Run.events (run : Run) : List Log.Event :=
  (run.execute.run.run .empty).2.events.toList

/-- Events that come up one after the other have the times of successive looks at the clock. -/
theorem Transcript.timed_append (clock : Clock) (look : Nat) (events further : List Log.Event) :
    timed clock look (events ++ further) =
      timed clock look events ++ timed clock (look + events.length) further := by
  rw [timed, List.zipIdx_append, List.map_append]
  rfl

/-- An event with a time is one of the events, and the time is that of a look at the clock. -/
theorem Transcript.exists_of_mem_timed {clock : Clock} {look : Nat} {events : List Log.Event}
    {event : Log.Event} {time : Timestamp} (member : (event, time) ∈ timed clock look events) :
    event ∈ events ∧ ∃ moment, time = clock moment := by
  obtain ⟨⟨event, moment⟩, numbered, same⟩ := List.mem_map.1 member
  cases same
  exact ⟨List.fst_mem_of_mem_zipIdx numbered, moment, rfl⟩

namespace CommandLine

/-- The events that a log writes to the standard output, with their times. -/
def shown (settings : Settings) (clock : Clock) (look : Nat) (events : List Log.Event) :
    List (Log.Event × Timestamp) :=
  (Transcript.timed clock look events).filter fun (event, _) =>
    event.level.passes settings.logging.least && !event.isError

/-- The lines of events that a log writes to the standard output, each event at its own look at the
clock. -/
def logLines (settings : Settings) (clock : Clock) (look : Nat) (events : List Log.Event) :
    List String :=
  (shown settings clock look events).map (Transcript.written settings.logging)

/-- The lines of events that come up one after the other are those of the earlier ones and then
those of the later ones. -/
theorem logLines_append (settings : Settings) (clock : Clock) (look : Nat)
    (events further : List Log.Event) :
    logLines settings clock look (events ++ further) =
      logLines settings clock look events ++
        logLines settings clock (look + events.length) further := by
  rw [logLines, shown, Transcript.timed_append, List.filter_append, List.map_append]
  rfl

/-- Nothing is written to the standard output for events that are failures or that the log does not
show. -/
theorem logLines_eq_nil {settings : Settings} {events : List Log.Event} (clock : Clock) (look : Nat)
    (hidden : ∀ event ∈ events,
      (event.level.passes settings.logging.least && !event.isError) = false) :
    logLines settings clock look events = [] := by
  rw [logLines, shown, List.map_eq_nil_iff, List.filter_eq_nil_iff]
  rintro ⟨event, time⟩ member
  exact Bool.eq_false_iff.1 (hidden event (Transcript.exists_of_mem_timed member).1)

/-- Events are written to the standard output by their lines. -/
theorem out_ofEvents (settings : Settings) (clock : Clock) (look : Nat)
    (events : List Log.Event) :
    (Transcript.ofEvents settings.logging clock look events).out =
      logLines settings clock look events := by
  have both : ((Transcript.timed clock look events).filter fun (event, _) =>
      event.level.passes settings.logging.least).filter (fun (event, _) => !event.isError) =
        shown settings clock look events := by
    rw [List.filter_filter]
    apply List.filter_congr
    intro event _
    exact Bool.and_comm _ _
  rw [logLines, ← both]
  rfl

/-- What stands above a report in a format. -/
def banner : ReportFormat → List String
  | .text => [Report.header]
  | .json => []

/-- What a test writes to the standard output before its report: the lines of its opening events,
the banner of the format, and the lines of the events of the run. -/
def preamble (format : ReportFormat) (run : Run) (clock : Clock) : List String :=
  logLines run.settings clock 0 (openingEvents run.settings) ++ banner format ++
    logLines run.settings clock (openingEvents run.settings).length run.events

/-- The run that a command line asks for, if it has settings. -/
structure Asks (line : CommandLine) (surroundings : Surroundings) (run : Run) : Prop where
  /-- It is a run of the grammars of the program. -/
  registry : linkedGrammars = .ok run.registry
  /-- Its settings are those of the command line. -/
  settings : line.settings surroundings.environment surroundings.tree = .ok run.settings
  /-- Its sources are among the files. -/
  tree : run.tree = surroundings.tree

variable {line : CommandLine} {surroundings : Surroundings} {run : Run}

/-- A command line that is neither to list symbols nor to be skipped tests its run. -/
theorem execute_of_asks (listing : line.listSymbols = false)
    (asks : line.Asks surroundings run) (unskipped : run.settings.skip = false) :
    line.execute surroundings = test line.reportFormat run surroundings.clock := by
  have planned : line.plan surroundings = .ok (.test run) := by
    rw [plan, asks.registry, asks.settings, ← asks.tree]
    simp only [listing, unskipped, bind, Except.bind, pure, Except.pure, Bool.false_eq_true,
      if_false]
  rw [execute, planned]

/-- The look at the clock after all events of a run. -/
def lastLook (run : Run) : Nat :=
  (openingEvents run.settings).length + run.events.length

/-- A test ends as the outcome of its run says. -/
theorem status_test (format : ReportFormat) (clock : Clock) {outcome : Except RunError Outcome}
    (ran : (run.execute.run.run .empty).1 = outcome) :
    (test format run clock).1 =
      (closing format run.settings clock (lastLook run) outcome).1 := by
  rw [← ran]
  rfl

/-- A test writes what comes at its end after the lines of its log. -/
theorem out_test (format : ReportFormat) (clock : Clock) {outcome : Except RunError Outcome}
    (ran : (run.execute.run.run .empty).1 = outcome) :
    (test format run clock).2.out = preamble format run clock ++
      (closing format run.settings clock (lastLook run) outcome).2.out := by
  have opened : (opening format run.settings (.ofLevel run.settings.logging.least) clock).out =
      logLines run.settings clock 0 (openingEvents run.settings) ++ banner format := by
    rw [← out_ofEvents]
    unfold opening
    cases Log.Service.keeps (.ofLevel run.settings.logging.least) .debug with
    | false => cases format <;> rfl
    | true => cases format <;> rfl
  rw [← ran, preamble, ← opened, ← out_ofEvents]
  rfl

end CommandLine

end Conformance
