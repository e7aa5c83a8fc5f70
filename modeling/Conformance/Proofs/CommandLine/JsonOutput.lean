import Conformance.Proofs.CommandLine.Status
import Conformance.Proofs.Run.Failure
import Conformance.Proofs.Text.JsonUnique

/-!
# Reports in JSON

A report in JSON is one document, which stands for the record of the run and for nothing else. It
is alone on the standard output where the log shows only warnings and failures, since a completed
run has no warnings. Where the log shows more, its lines come before the report; in the structured
style each of them is a document of its own.
-/

namespace Conformance

open Log

/-- A completed run enters no warnings. -/
theorem Run.Completes.filter_isWarning {run : Run} {file after : Option String}
    {collector : Collector} {events : List Event}
    (completes : run.Completes file after collector events) :
    events.filter Event.isWarning = [] := by
  obtain ⟨paths, results, told, -, -, -, tells, rfl⟩ := completes
  obtain ⟨identity, -, found⟩ := tells.filter fun event => Event.Routine.isWarning
  have counts : ¬(Run.completedEvent after identity ⟨results.toArray⟩).isWarning = true := by
    rw [Run.completedEvent, Event.isWarning_marked]
    exact Bool.false_ne_true
  have discovered := Bool.eq_false_iff.1
    (FileSet.isWarning_discoveredEvent file run.settings.fileSets paths)
  rw [List.filter_cons_of_neg discovered, found, SourceResult.filter_isWarning_map_event,
    List.filter_cons_of_neg counts]
  rfl

namespace CommandLine

variable {line : CommandLine} {surroundings : Surroundings} {run : Run}

/-- A log that shows only warnings and failures writes nothing to the standard output for events
without warnings. -/
theorem logLines_eq_nil_of_quiet {settings : Settings} {events : List Event}
    (quiet : events.filter Event.isWarning = [])
    (least : settings.logging.least = .error ∨ settings.logging.least = .warning)
    (clock : Clock) (look : Nat) : logLines settings clock look events = [] := by
  apply logLines_eq_nil
  intro event member
  have harmless := List.filter_eq_nil_iff.1 quiet event member
  revert harmless
  rw [Event.isWarning, Event.isError]
  rcases least with same | same
  · rw [same]
    cases event.level <;> decide
  · rw [same]
    cases event.level <;> decide

/-- The events of a run that completes hold no warnings. -/
theorem filter_isWarning_events {collector : Collector}
    (ran : (run.execute.run.run .empty).1 = .ok (.completed collector)) :
    run.events.filter Event.isWarning = [] := by
  obtain ⟨outcome, events, after, course, -, -, told, -⟩ := run.course_execute none
  rw [Journal.empty, course #[]] at ran
  have entered : run.events = events := by
    rw [Run.events, Journal.empty, course #[], Array.empty_append]
  rw [entered]
  exact (told collector ran).filter_isWarning

/-- In the structured style, each line of a log is a document, which stands for the record of an
event at a look at the clock and for nothing else. -/
theorem exists_record_of_mem_logLines {settings : Settings} {clock : Clock} {look : Nat}
    {events : List Event} (structured : settings.logging.structured = true) {text : String}
    (member : text ∈ logLines settings clock look events) :
    ∃ event ∈ events, ∃ moment, ∀ value : JsonValue,
      value.IsDocument text.toList ↔ value = event.record (clock moment) := by
  obtain ⟨⟨event, time⟩, listed, rfl⟩ := List.mem_map.1 member
  obtain ⟨entered, moment, rfl⟩ := Transcript.exists_of_mem_timed (List.mem_of_mem_filter listed)
  refine ⟨event, entered, moment, ?_⟩
  rw [Transcript.written, if_pos structured]
  exact JsonValue.isDocument_compact_iff _

/-- A text after others is written after them, with a line break. -/
theorem withBreaks_concat (texts : List String) (text : String) :
    Transcript.withBreaks (texts ++ [text]) = Transcript.withBreaks texts ++ text ++ "\n" := by
  rw [Transcript.withBreaks, List.map_append, String.join_append, Transcript.withBreaks,
    String.append_assoc]
  simp

/-- A command line that asks for a report in JSON, and whose run completes, writes the lines of its
log and then one document with a line break. Each event has its own look at the clock. The document
stands for the record of the run on its grammar, its start rule and its results at the look after
all events, and for no other value. Where the log shows only warnings and failures, the document is
all that is written. Where it shows more in the structured style, each of its lines is a document as
well, which stands for the record of an event. -/
theorem execute_json (listing : line.listSymbols = false) (json : line.reportFormat = .json)
    (asks : line.Asks surroundings run) (unskipped : run.settings.skip = false)
    {collector : Collector} (ran : (run.execute.run.run .empty).1 = .ok (.completed collector)) :
    ∃ lines document,
      (line.execute surroundings).2.outText = Transcript.withBreaks lines ++ document ++ "\n" ∧
        (∀ value : JsonValue, value.IsDocument document.toList ↔
          value = Report.record collector run.settings.grammar run.settings.startRule
            (surroundings.clock (lastLook run))) ∧
        lines = logLines run.settings surroundings.clock 0
          (openingEvents run.settings ++ run.events) ∧
        (run.settings.logging.least = .error ∨ run.settings.logging.least = .warning →
          lines = []) ∧
        (run.settings.logging.structured = true → ∀ text ∈ lines,
          ∃ event ∈ openingEvents run.settings ++ run.events, ∃ look, ∀ value : JsonValue,
            value.IsDocument text.toList ↔ value = event.record (surroundings.clock look)) := by
  let events := openingEvents run.settings ++ run.events
  let value := Report.record collector run.settings.grammar run.settings.startRule
    (surroundings.clock (lastLook run))
  have out : (line.execute surroundings).2.out =
      logLines run.settings surroundings.clock 0 events ++ [value.pretty] := by
    rw [execute_of_asks listing asks unskipped, out_test _ _ ran, json, preamble, banner,
      List.append_nil, logLines_append, Nat.zero_add]
    rfl
  have quiet : events.filter Event.isWarning = [] := by
    rw [List.filter_append, filter_isWarning_events ran]
    rfl
  refine ⟨_, value.pretty, ?_, value.isDocument_pretty_iff, rfl, fun least => ?_,
    fun style text => ?_⟩
  · rw [Transcript.outText, out, withBreaks_concat]
  · exact logLines_eq_nil_of_quiet quiet least _ _
  · exact exists_record_of_mem_logLines style

/-- On a statement that is accepted and one that is rejected, the report comes after the records of
the log, and at the level of failures it stands alone. -/
theorem execute_json_files :
    (∃ lines document,
      ((testing "info").execute (withFiles nothingPrinted)).2.outText =
          Transcript.withBreaks lines ++ document ++ "\n" ∧
        lines ≠ [] ∧
        (∀ text ∈ lines,
          ∃ event ∈ openingEvents (fileSettings "info") ++ (fileRun "info" nothingPrinted).events,
            ∃ look, ∀ value : JsonValue,
              value.IsDocument text.toList ↔ value = event.record (ticking look)) ∧
        ∀ value : JsonValue, value.IsDocument document.toList ↔
          value = Report.record ⟨fileResults.toArray⟩ "Snafu" "startRule"
            (ticking (lastLook (fileRun "info" nothingPrinted)))) ∧
      ∃ document,
        ((testing "error").execute (withFiles nothingPrinted)).2.outText = document ++ "\n" ∧
          ∀ value : JsonValue, value.IsDocument document.toList ↔
            value = Report.record ⟨fileResults.toArray⟩ "Snafu" "startRule"
              (ticking (lastLook (fileRun "error" nothingPrinted))) := by
  constructor
  · obtain ⟨lines, document, out, spelled, same, -, each⟩ :=
      execute_json rfl rfl (asks_files "info" nothingPrinted) rfl
        ((hasResults_files "info").yields .empty)
    refine ⟨lines, document, out, fun empty => ?_, each rfl, spelled⟩
    have opened := preamble_files nothingPrinted
    rw [preamble, banner, List.append_nil] at opened
    have joined := logLines_append (fileSettings "info") ticking 0
      (openingEvents (fileSettings "info")) (fileRun "info" nothingPrinted).events
    rw [Nat.zero_add] at joined
    cases (empty.symm.trans same).trans (joined.trans opened)
  · obtain ⟨lines, document, out, spelled, -, alone, -⟩ :=
      execute_json rfl rfl (asks_files "error" nothingPrinted) rfl
        ((hasResults_files "error").yields .empty)
    have none : lines = [] := alone (.inl (by decide +kernel))
    rw [none] at out
    refine ⟨document, ?_, spelled⟩
    rw [out, Transcript.withBreaks, List.map_nil, String.join_nil, String.empty_append]

/-- A command line that asks for a report in JSON on no sources. -/
def reporting : CommandLine :=
  { CommandLine.empty with
    startRule := some "startRule", grammar := some "Snafu", scope := some "foo.bar.baz",
    format := some .json }

/-- The run of that command line. -/
def reportingRun : Run where
  settings := ⟨"startRule", "Snafu", "foo.bar.baz", "utf-8", false, [], ⟨"info", false⟩⟩
  registry := ((Snafu.publish .empty).run .empty).1.2
  tree := (default : Surroundings).tree

/-- At the level of information, which is that of a command line that names none, what is written is
no document. -/
theorem not_isDocument_reporting :
    CommandLine.ofWords ["--start-rule", "startRule", "--grammar", "Snafu", "--namespace",
        "foo.bar.baz", "--format", "json"] = .ok reporting ∧
      reporting.Asks default reportingRun ∧
      (reportingRun.execute.run.run .empty).1 = .ok (.completed ⟨#[]⟩) ∧
      ¬∃ value, JsonValue.IsDocument value (reporting.execute default).2.outText.toList := by
  have asks : reporting.Asks default reportingRun := ⟨by rfl, by rfl, rfl⟩
  have ran : (reportingRun.execute.run.run .empty).1 = .ok (.completed ⟨#[]⟩) := by rfl
  have start : ∃ rest, (reporting.execute default).2.outText.toList = '[' :: 'I' :: rest := by
    have lines : logLines reportingRun.settings (default : Surroundings).clock 0
        (openingEvents reportingRun.settings) =
          ["[INFO] I001 - Global logging system initialized",
            "[INFO] I000 - Infallible starting (grammar=Snafu)"] := by
      decide +kernel
    rw [Transcript.outText, execute_of_asks rfl asks rfl, out_test _ _ ran, preamble, lines,
      Transcript.withBreaks, List.cons_append, List.cons_append, List.cons_append, List.map_cons,
      String.join_cons, String.toList_append, String.toList_append]
    exact ⟨_, rfl⟩
  refine ⟨by decide +kernel, asks, ran, fun document => ?_⟩
  obtain ⟨rest, same⟩ := start
  obtain ⟨value, document⟩ := document
  rw [same] at document
  obtain ⟨c, others, letter, known⟩ := document.second
  cases letter
  exact absurd known (by decide)

end CommandLine

end Conformance
