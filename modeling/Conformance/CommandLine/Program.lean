import Conformance.CommandLine.Layering
import Conformance.CommandLine.Transcript
import Conformance.Grammar.Snafu.Publication

/-!
# The program

The program carries out one command line. It lists the symbols of its grammars, or says that the
run is skipped, or tests the sources and writes a report. The log is set up only for a test, so a
failure before that is written as a plain line. The exit status tells whether all sources were
accepted, some were rejected, or the test could not be finished. The clock is looked at for each
event of the log, in the order in which they come up, and then for the report.
-/

namespace Conformance

/-- What a program finds when it starts. -/
structure Surroundings where
  /-- The variables of its environment. -/
  environment : Environment
  /-- The files. -/
  tree : FileTree
  /-- The clock. -/
  clock : Clock
  deriving Inhabited

/-- How a program ends. -/
inductive ExitStatus where
  /-- All sources were accepted, or none had to be tested. -/
  | passed
  /-- Some source was rejected. -/
  | rejected
  /-- Something went wrong. -/
  | failed
  deriving Repr, DecidableEq, Inhabited

/-- The number of an exit status. -/
def ExitStatus.number : ExitStatus → Nat
  | .passed => 0
  | .rejected => 1
  | .failed => 2

/-- The event of an error that ends a program. -/
def CommandError.event (error : CommandError) : Log.Event :=
  .error error.code error.message

/-- What a command line comes down to. -/
inductive Plan where
  /-- List the symbols. -/
  | list (registry : Registry)
  /-- Say that nothing is tested. -/
  | skip
  /-- Test the sources. -/
  | test (run : Run)

/-- What is written in place of a test. -/
def skipNotice : String := "Execution skipped."

/-- The grammars of the program. -/
def linkedGrammars : Except CommandError Registry :=
  match ((Snafu.publish .empty).run .empty).1 with
  | (.ok (), registry) => .ok registry
  | (.error error, _) => .error (.registry error)

/-- The line of a symbol in a list. -/
def Descriptor.listing (symbol : Descriptor) : String :=
  let capability := symbol.capability.name
  capability ++ "".pushn ' ' (8 - capability.length) ++ " " ++ symbol.name

namespace CommandLine

/-- What the command line comes down to. -/
def plan (line : CommandLine) (surroundings : Surroundings) : Except CommandError Plan := do
  let registry ← linkedGrammars
  if line.listSymbols then return .list registry
  let settings ← line.settings surroundings.environment surroundings.tree
  if settings.skip then return .skip
  return .test ⟨settings, registry, surroundings.tree⟩

/-- The events of the start of a test. -/
def openingEvents (settings : Settings) : List Log.Event := [
  .success .systemInitialized "Global logging system initialized",
  (Log.Event.info "Infallible starting").withContext "grammar" settings.grammar]

/-- What is written before the test of the sources. -/
def opening (format : ReportFormat) (settings : Settings) (service : Log.Service)
    (clock : Clock) : Transcript :=
  let diagnostics :=
    if service.keeps .debug then
      Transcript.ofErr (settings.logging.diagnostics (some service.least))
    else .empty
  let header :=
    match format with
    | .text => Transcript.ofOut Report.header
    | .json => .empty
  diagnostics ++ Transcript.ofEvents settings.logging clock 0 (openingEvents settings) ++ header

/-- The report on results. -/
def report (format : ReportFormat) (settings : Settings) (collector : Collector)
    (time : Timestamp) : String :=
  match format with
  | .text => Report.text collector
  | .json => Report.json collector settings.grammar settings.startRule time

/-- What a test writes at its end, at a look at the clock, and how it ends. -/
def closing (format : ReportFormat) (settings : Settings) (clock : Clock) (look : Nat) :
    Except RunError Outcome → ExitStatus × Transcript
  | .ok .skipped => (.passed, .empty)
  | .ok (.completed collector) =>
    (if collector.hasFailed then .rejected else .passed,
      .ofOut (report format settings collector (clock look)))
  | .error error =>
    (.failed, .ofEvents settings.logging clock look [(CommandError.run error).event])

/-- Test the sources. -/
def test (format : ReportFormat) (run : Run) (clock : Clock) : ExitStatus × Transcript :=
  match Log.Service.install none (.ofLevel run.settings.logging.least) with
  | .error reason => (.failed, .ofErr (CommandError.log reason).event.line)
  | .ok service =>
    let (outcome, journal) := run.execute.run.run .empty
    let events := journal.events.toList
    let look := (openingEvents run.settings).length
    let (status, last) := closing format run.settings clock (look + events.length) outcome
    (status,
      opening format run.settings service clock ++
        Transcript.ofEvents run.settings.logging clock look events ++ last)

/-- Carry out the command line. -/
def execute (line : CommandLine) (surroundings : Surroundings) : ExitStatus × Transcript :=
  match line.plan surroundings with
  | .error error => (.failed, .ofErr error.event.line)
  | .ok (.list registry) => (.passed, ⟨registry.symbols.map Descriptor.listing, []⟩)
  | .ok .skip => (.passed, .ofOut skipNotice)
  | .ok (.test run) => test line.reportFormat run surroundings.clock

end CommandLine

end Conformance
