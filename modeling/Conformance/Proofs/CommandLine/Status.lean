import Conformance.Proofs.CommandLine.Output
import Conformance.Proofs.CommandLine.Skip
import Conformance.Proofs.Run.Rejection

/-!
# The exit status of a test

A command line that asks for a test ends in one of three ways. If its settings, the search for
sources, the implementations of the grammar or the test of some source fail, there is no report.
Otherwise its report counts the sources and those that were rejected, and the exit status tells
whether there are any of these.
-/

namespace Conformance

open Log.Attempt

/-- A report in a format states how many sources there are and how many of them were rejected: in
its last line, or in the fields of its record. -/
inductive ReportFormat.States : ReportFormat → String → Nat → Nat → Prop where
  /-- A text ends with a line that counts them. -/
  | text (lines : List String) (total failed : Nat) :
      States .text ("\n".intercalate (lines ++
        ["Sources parsed: " ++ toString total ++ ", Failed: " ++ toString failed])) total failed
  /-- A record has fields that count them. -/
  | json {fields : List (String × JsonValue)} {total failed : Nat}
      (counts : fields.lookup "total" = some (.number total))
      (countsFailed : fields.lookup "failed" = some (.number failed)) :
      States .json (JsonValue.record fields).pretty total failed

namespace CommandLine

variable {line : CommandLine} {surroundings : Surroundings} {run : Run}

/-- A report states how many results there are and how many of them are rejections. -/
theorem states_report (format : ReportFormat) (settings : Settings) (collector : Collector)
    (time : Timestamp) :
    format.States (report format settings collector time) collector.count
      collector.countFailed := by
  cases format with
  | json =>
    show ReportFormat.States .json (Report.record collector _ _ time).pretty _ _
    apply ReportFormat.States.json
    · rfl
    · rfl
  | text =>
    have last : ∃ lines, Report.lines collector = lines ++ [Report.countLine collector] := by
      unfold Report.lines
      cases collector.hasFailed with
      | false => exact ⟨[], rfl⟩
      | true =>
        refine ⟨"Failed sources:" :: collector.failures.map Report.failureLine ++ [""], ?_⟩
        rw [if_pos rfl, List.append_assoc]
        rfl
    obtain ⟨lines, same⟩ := last
    have stated := ReportFormat.States.text lines collector.count collector.countFailed
    show ReportFormat.States .text (Report.text collector) _ _
    rw [Report.text, same]
    exact stated

/-! ## Settings and runs -/

/-- The settings of a command line make sense. -/
theorem Asks.valid (asks : line.Asks surroundings run) : run.settings.validate = .ok () := by
  have given := asks.settings
  obtain ⟨-, -, given⟩ := Log.exists_of_bind_eq_ok given
  obtain ⟨base, -, given⟩ := Log.exists_of_bind_eq_ok given
  obtain ⟨passed, checked, same⟩ := Log.exists_of_bind_eq_ok given
  rw [← Except.ok.inj same]
  exact Log.eq_ok_of_mapError checked

/-- The run of a command line breaks and ends with an error, or it has results. -/
theorem Asks.breaks_or_hasResults (asks : line.Asks surroundings run)
    (unskipped : run.settings.skip = false) :
    (run.Breaks ∧ ∃ error, run.execute.Yields (.error error)) ∨
      ∃ paths results, run.HasResults paths results := by
  obtain ⟨identity, named⟩ :=
    Settings.exists_identity_iff.2 (Settings.validate_eq_ok_iff.1 asks.valid).grammar
  exact Run.breaks_or_hasResults unskipped asks.valid named

/-- A command line asks for no other run. -/
theorem Asks.unique {other : Run} (asks : line.Asks surroundings run)
    (again : line.Asks surroundings other) : run = other := by
  obtain ⟨settings, registry, tree⟩ := run
  obtain ⟨settings', registry', tree'⟩ := other
  have same : settings = settings' := Except.ok.inj (asks.settings.symm.trans again.settings)
  have published : registry = registry' :=
    Except.ok.inj (asks.registry.symm.trans again.registry)
  have files : tree = tree' := asks.tree.trans again.tree.symm
  rw [same, published, files]

/-- A command line with settings asks for a run. -/
theorem exists_asks {settings : Settings}
    (given : line.settings surroundings.environment surroundings.tree = .ok settings) :
    ∃ run, line.Asks surroundings run := by
  obtain ⟨registry, linked⟩ := exists_linkedGrammars
  exact ⟨⟨settings, registry, surroundings.tree⟩, linked, given, rfl⟩

/-- Something fails for another reason than a rejection: there are no settings, or the run
breaks. -/
inductive Fails (line : CommandLine) (surroundings : Surroundings) : Prop where
  /-- There are no settings. -/
  | settings {error : CommandError}
      (failed : line.settings surroundings.environment surroundings.tree = .error error)
  /-- The search for sources, the implementations or the test of some source fail. -/
  | run {run : Run} (asks : line.Asks surroundings run) (breaks : run.Breaks)

/-- A command line whose run has results does not fail. -/
theorem Asks.not_fails {paths : List String} {results : List SourceResult}
    (asks : line.Asks surroundings run) (has : run.HasResults paths results) :
    ¬line.Fails surroundings := by
  intro fails
  cases fails with
  | settings failed => cases asks.settings.symm.trans failed
  | run again breaks => exact has.not_breaks (asks.unique again ▸ breaks)

/-! ## The exit status -/

/-- A command line whose run ends with an error fails, and writes no report. -/
theorem execute_of_error_run (listing : line.listSymbols = false)
    (asks : line.Asks surroundings run) (unskipped : run.settings.skip = false) {error : RunError}
    (yields : run.execute.Yields (.error error)) :
    (line.execute surroundings).1 = .failed ∧
      (line.execute surroundings).2.out =
        preamble line.reportFormat run surroundings.clock := by
  have quiet : (closing line.reportFormat run.settings surroundings.clock (lastLook run)
      (.error error)).2.out = [] := by
    show (Transcript.ofEvents _ _ _ [(CommandError.run error).event]).out = []
    rw [out_ofEvents]
    apply logLines_eq_nil
    intro event member
    rw [List.mem_singleton.1 member]
    exact Bool.and_false _
  rw [execute_of_asks listing asks unskipped, status_test _ _ (yields .empty),
    out_test _ _ (yields .empty), quiet]
  exact ⟨rfl, List.append_nil _⟩

/-- Results hold a rejection just when there are some among the sources. -/
theorem hasFailed_iff {paths : List String} {results : List SourceResult}
    (has : run.HasResults paths results) :
    (⟨results.toArray⟩ : Collector).hasFailed = true ↔
      ∃ path ∈ paths, ∃ cause, run.Rejects path cause := by
  rw [← has.rejections.pos_iff, List.length_pos_iff_exists_mem, Collector.hasFailed,
    List.any_toArray, List.any_eq_true]
  simp only [List.mem_filter]

/-- The number of an exit status tells whether there are rejections. -/
theorem number_iff {collector : Collector} {status : ExitStatus}
    (tells : status = if collector.hasFailed then .rejected else .passed) :
    (status.number = 1 ↔ collector.hasFailed = true) ∧
      (status.number = 0 ↔ ¬collector.hasFailed = true) := by
  cases failed : collector.hasFailed with
  | false =>
    rw [failed] at tells
    rw [tells]
    decide
  | true =>
    rw [failed] at tells
    rw [tells]
    decide

/-- A command line whose run has results writes a report on them, and ends as they say. -/
theorem execute_of_hasResults (listing : line.listSymbols = false)
    (asks : line.Asks surroundings run) (unskipped : run.settings.skip = false)
    {paths : List String} {results : List SourceResult} (has : run.HasResults paths results) :
    (line.execute surroundings).1 =
        (if (⟨results.toArray⟩ : Collector).hasFailed then .rejected else .passed) ∧
      (line.execute surroundings).2.out =
        preamble line.reportFormat run surroundings.clock ++
          [report line.reportFormat run.settings ⟨results.toArray⟩
            (surroundings.clock (lastLook run))] := by
  rw [execute_of_asks listing asks unskipped, status_test _ _ (has.yields .empty),
    out_test _ _ (has.yields .empty)]
  exact ⟨rfl, rfl⟩

/-- A command line that tests sources ends in one of three ways. If something fails for another
reason than a rejection, the exit status is 2, and there is nothing on the standard output but lines
of the log and the banner, not even these if there are no settings. Otherwise it is 1 or 0, as some
source was rejected or none, and the report after these lines states how many sources there are and
how many of them were rejected. -/
theorem execute_status (listing : line.listSymbols = false)
    (unskipped : ∀ settings,
      line.settings surroundings.environment surroundings.tree = .ok settings →
        settings.skip = false) :
    (line.Fails surroundings →
      (line.execute surroundings).1.number = 2 ∧
        ((∀ run, ¬line.Asks surroundings run) ∧ (line.execute surroundings).2.out = [] ∨
          ∃ run, line.Asks surroundings run ∧ (line.execute surroundings).2.out =
            preamble line.reportFormat run surroundings.clock)) ∧
      (¬line.Fails surroundings → ∃ run paths rejected report,
        line.Asks surroundings run ∧
        (FileSet.discover run.settings.fileSets run.tree).Yields (.ok paths) ∧
        run.Rejections paths rejected ∧
        ((line.execute surroundings).1.number = 1 ↔
          ∃ path ∈ paths, ∃ cause, run.Rejects path cause) ∧
        ((line.execute surroundings).1.number = 0 ↔
          ∀ path ∈ paths, ∀ cause, ¬run.Rejects path cause) ∧
        (line.execute surroundings).2.out =
          preamble line.reportFormat run surroundings.clock ++ [report] ∧
        line.reportFormat.States report paths.length rejected) := by
  constructor
  · intro fails
    cases fails with
    | settings failed =>
      have unasked (run : Run) : ¬line.Asks surroundings run := by
        intro asks
        cases asks.settings.symm.trans failed
      rw [execute_of_error listing failed]
      exact ⟨rfl, .inl ⟨unasked, rfl⟩⟩
    | @run run asks breaks =>
      have active := unskipped run.settings asks.settings
      rcases asks.breaks_or_hasResults active with ended | completed
      · obtain ⟨-, error, yields⟩ := ended
        obtain ⟨status, out⟩ := execute_of_error_run listing asks active yields
        rw [status]
        exact ⟨rfl, .inr ⟨run, asks, out⟩⟩
      · obtain ⟨paths, results, has⟩ := completed
        exact absurd breaks has.not_breaks
  · intro fine
    cases given : line.settings surroundings.environment surroundings.tree with
    | error error => exact absurd (.settings given) fine
    | ok settings =>
      obtain ⟨run, asks⟩ := exists_asks given
      have active := unskipped run.settings asks.settings
      rcases asks.breaks_or_hasResults active with ended | completed
      · exact absurd (.run asks ended.1) fine
      · obtain ⟨paths, results, has⟩ := completed
        obtain ⟨status, out⟩ := execute_of_hasResults listing asks active has
        obtain ⟨one, zero⟩ := number_iff status
        have counted := states_report line.reportFormat run.settings ⟨results.toArray⟩
          (surroundings.clock (lastLook run))
        have total : (⟨results.toArray⟩ : Collector).count = paths.length := by
          obtain ⟨identity, assembly, -, -, judged⟩ := has.judged
          exact judged.length_eq.symm
        rw [total] at counted
        rw [hasFailed_iff has] at one zero
        simp only [not_exists, not_and] at zero
        exact ⟨run, paths, _, _, asks, has.discovered, has.rejections, one, zero, out, counted⟩

/-! ## Two files -/

/-- A command line that tests the sources of Snafu in a directory. The log is written as records,
from a level on, and so is the report. -/
def testing (level : String) : CommandLine :=
  { CommandLine.empty with
    startRule := some "startRule", grammar := some "Snafu", scope := some "foo.bar.baz",
    directory := some "d", logLevel := some level, structuredLogs := true, format := some .json }

/-- A statement that prints a number. -/
def numberPrinted : ByteArray := ⟨#[112, 114, 105, 110, 116, 32, 49, 59]⟩

/-- A statement that prints nothing, which Snafu does not have. -/
def nothingPrinted : ByteArray := ⟨#[112, 114, 105, 110, 116, 32, 59]⟩

/-- A byte that stands for no text in UTF-8. -/
def noText : ByteArray := ⟨#[255]⟩

/-- A directory with the statement that prints a number in one file, and some bytes in another. -/
def twoFiles (second : ByteArray) : FileTree where
  root := .directory [
    ("d", .directory [("a.snf", .file (.bytes numberPrinted)), ("b.snf", .file (.bytes second))])]
  start := []

/-- A clock that goes on by a second from one look to the next. -/
def ticking : Clock := fun look => ⟨look, 0⟩

/-- The files with an empty environment and that clock. -/
def withFiles (second : ByteArray) : Surroundings := ⟨⟨[]⟩, twoFiles second, ticking⟩

/-- The settings of the command line. -/
def fileSettings (level : String) : Settings :=
  ⟨"startRule", "Snafu", "foo.bar.baz", "utf-8", false, [.ofDirectory "d"], ⟨level, true⟩⟩

/-- The run of the command line on the files. -/
def fileRun (level : String) (second : ByteArray) : Run :=
  ⟨fileSettings level, ((Snafu.publish .empty).run .empty).1.2, twoFiles second⟩

/-- The implementations of Snafu. -/
def snafuAssembly : Assembly :=
  ⟨"foo.bar.baz.SnafuLexer", Snafu.lexerConstructor, "foo.bar.baz.SnafuParser",
    Snafu.parserConstructor⟩

/-- The rejection of a statement that prints nothing, at its semicolon. -/
def unprintable : RecognitionError where
  cause := .mismatch "\x7bINT, ID, STRING, '(', '-'\x7d"
  offending := ⟨4, ";", .visible, ⟨1, 6⟩, 2⟩
  expected := [12, 11, 13, 9, 6]

/-- The results of the run on both statements. -/
def fileResults : List SourceResult := [.accepted "d/a.snf", .rejected "d/b.snf" unprintable]

section TwoFiles

variable (level : String) (second : ByteArray)

/-- The settings make sense. -/
theorem sensible_files : (fileSettings level).Sensible where
  startRule := (by decide : Text.isAllBlank "startRule" = false)
  encoding := (by decide : Text.isAllBlank "utf-8" = false)
  grammar := (by decide : Text.isAllBlank "Snafu" = false)
  includes := List.forall_mem_singleton.2 (List.cons_ne_nil _ _)

/-- The command line asks for the run. -/
theorem asks_files : (testing level).Asks (withFiles second) (fileRun level second) where
  registry := (by rfl : linkedGrammars = .ok ((Snafu.publish .empty).run .empty).1.2)
  settings := (settings_eq_ok_iff rfl (.without rfl)).2 ⟨rfl, sensible_files level⟩
  tree := rfl

/-- The run is not to be skipped. -/
theorem unskipped_files (settings : Settings)
    (given : (testing level).settings (withFiles second).environment (withFiles second).tree =
      .ok settings) : settings.skip = false := by
  rw [← Except.ok.inj ((asks_files level second).settings.symm.trans given)]
  rfl

/-- The run finds the implementations of Snafu. -/
theorem assembled_files :
    (fileRun level second).settings.identity = .ok ⟨"foo.bar.baz", "Snafu"⟩ ∧
      (fileRun level second).assemblyOf ⟨"foo.bar.baz", "Snafu"⟩ = .ok snafuAssembly := by
  have known : GrammarIdentity.ofNames "foo.bar.baz" "Snafu" = .ok ⟨"foo.bar.baz", "Snafu"⟩ := by
    decide +kernel
  exact ⟨known, by rfl⟩

/-- The search for sources finds both files. -/
theorem discover_files : (FileSet.discover [.ofDirectory "d"] (twoFiles second)).Yields
    (.ok ["d/a.snf", "d/b.snf"]) := by
  have directory : (twoFiles second).isDirectory "d" = true := by cbv
  have walked : (twoFiles second).walk "d" = .ok [["a.snf"], ["b.snf"]] := by cbv
  have everything : Glob.ofText "**/*" = .ok ⟨[.parts, .run]⟩ := by decide +kernel
  have read : (FileSet.readPatterns FileSet.everything).Yields (.ok [⟨[.parts, .run]⟩]) := by
    rw [FileSet.everything, FileSet.readPatterns, everything]
    exact (Yields.pure []).bind_ok (Yields.pure _)
  have scanned : ((FileSet.ofDirectory "d").scan (twoFiles second)).Yields
      (.ok ["d/a.snf", "d/b.snf"]) := by
    unfold FileSet.scan FileSet.ofDirectory
    simp only [directory, walked]
    exact read.bind_ok ((Yields.pure []).bind_ok (Yields.pure _))
  have all : (FileSet.scanAll (twoFiles second) [.ofDirectory "d"]).Yields
      (.ok ["d/a.snf", "d/b.snf"]) := scanned.bind_ok ((Yields.pure []).bind_ok (Yields.pure _))
  exact all.bind_ok ((Yields.pure _).emit _ _)

/-- Each file is held with its content. -/
theorem content_files :
    SourceFile.content ⟨"d/a.snf", "utf-8"⟩ (twoFiles second) = .ok (.bytes numberPrinted) ∧
      (second.size ≤ SourceFile.greatestSize →
        SourceFile.content ⟨"d/b.snf", "utf-8"⟩ (twoFiles second) = .ok (.bytes second)) := by
  have parts : Path.texts "d/a.snf" = ["d", "a.snf"] := by decide
  have others : Path.texts "d/b.snf" = ["d", "b.snf"] := by decide
  have first : (twoFiles second).resolve "d/a.snf" =
      .ok (["d", "a.snf"], .file (.bytes numberPrinted)) := by
    rw [FileTree.resolve, if_neg (by decide), if_neg (by decide), if_neg (by decide), parts,
      if_neg (by decide)]
    cbv
  have next : (twoFiles second).resolve "d/b.snf" =
      .ok (["d", "b.snf"], .file (.bytes second)) := by
    rw [FileTree.resolve, if_neg (by decide), if_neg (by decide), if_neg (by decide), others,
      if_neg (by decide)]
    cbv
  constructor
  · have small : numberPrinted.size ≤ SourceFile.greatestSize := by decide
    exact @SourceFile.content_eq_ok ⟨"d/a.snf", "utf-8"⟩ _ _ (.bytes numberPrinted) first small
  · intro small
    exact @SourceFile.content_eq_ok ⟨"d/b.snf", "utf-8"⟩ _ _ (.bytes second) next small

/-- The files are read as UTF-8. -/
theorem label_files : Encoding.ofLabel? "utf-8" = some .utf8 := by
  decide +kernel

/-- What becomes of a file is the verdict on its text. -/
theorem judge_files {path text : String} {bytes : ByteArray}
    (held : SourceFile.content ⟨path, "utf-8"⟩ (twoFiles second) = .ok (.bytes bytes))
    (read : Encoding.utf8.decode bytes = some text) :
    (fileRun level second).judge snafuAssembly path =
      (((snafuAssembly.construct (.ofText path text)).mapError
          AssemblyError.construction).mapError RunError.assembly >>= fun parser =>
        (parser.verdict "startRule").mapError RunError.invocation) := by
  have decoded : SourceFile.decode ⟨path, "utf-8"⟩ (twoFiles second) = .ok (.utf8, bytes, text) :=
    SourceFile.decode_eq_ok_iff.2 ⟨_, held, rfl, label_files, read⟩
  show (snafuAssembly.parserOf (twoFiles second) ⟨path, "utf-8"⟩).mapError _ >>= _ = _
  rw [Assembly.parserOf, decoded]
  rfl

/-- The run on both statements has a result for each of them. -/
theorem hasResults_files :
    (fileRun level nothingPrinted).HasResults ["d/a.snf", "d/b.snf"] fileResults := by
  obtain ⟨first, other⟩ := content_files nothingPrinted
  obtain ⟨named, assembled⟩ := assembled_files level nothingPrinted
  have accepted : (fileRun level nothingPrinted).judge snafuAssembly "d/a.snf" =
      .ok (.accepted "d/a.snf") := by
    rw [judge_files level _ first (by decide +kernel : _ = some "print 1;")]
    decide +kernel
  have rejected : (fileRun level nothingPrinted).judge snafuAssembly "d/b.snf" =
      .ok (.rejected "d/b.snf" unprintable) := by
    rw [judge_files level _ (other (by decide)) (by decide +kernel : _ = some "print ;")]
    decide +kernel
  refine Run.hasResults_of_mapM rfl (Settings.validate_eq_ok_iff.2 (sensible_files level))
    (discover_files nothingPrinted) named assembled ?_
  rw [List.mapM_cons, accepted, List.mapM_cons, rejected]
  rfl

/-- The run breaks at bytes that stand for no text. -/
theorem breaks_files : (fileRun level noText).Breaks := by
  obtain ⟨-, other⟩ := content_files noText
  obtain ⟨named, assembled⟩ := assembled_files level noText
  have malformed : Encoding.utf8.decode noText = none := by decide +kernel
  have unread : SourceFile.decode ⟨"d/b.snf", "utf-8"⟩ (twoFiles noText) =
      .error (.malformed "d/b.snf" "UTF-8") := by
    unfold SourceFile.decode
    simp only [label_files, other (by decide), bind, Except.bind, Content.data, malformed]
    rfl
  have failed : (fileRun level noText).judge snafuAssembly "d/b.snf" =
      .error (.assembly (.source (.malformed "d/b.snf" "UTF-8"))) := by
    show (snafuAssembly.parserOf (twoFiles noText) ⟨"d/b.snf", "utf-8"⟩).mapError _ >>= _ = _
    rw [Assembly.parserOf, unread]
    rfl
  have tested := (fileRun level noText).yields_testFile snafuAssembly "d/b.snf"
  have found := (fileRun level noText).yields_assemble ⟨"foo.bar.baz", "Snafu"⟩
  rw [failed] at tested
  rw [assembled] at found
  exact .source (discover_files noText) named found (List.mem_cons_of_mem _ List.mem_cons_self)
    tested

/-- At the level of information, the first lines of the log are the records of the opening events,
each with its own time. -/
theorem preamble_files : preamble .json (fileRun "info" second) ticking =
    (openingEvents (fileSettings "info")).zipWith Log.Event.jsonLine [⟨0, 0⟩, ⟨1, 0⟩] ++
      logLines (fileSettings "info") ticking 2 (fileRun "info" second).events := by
  have opened : logLines (fileSettings "info") ticking 0 (openingEvents (fileSettings "info")) =
      (openingEvents (fileSettings "info")).zipWith Log.Event.jsonLine [⟨0, 0⟩, ⟨1, 0⟩] := by
    decide +kernel
  rw [← opened, preamble, banner, List.append_nil]
  rfl

end TwoFiles

/-- The test of both statements ends with the status of a rejection, and its report, after the lines
of the log, counts two sources and one rejection. With bytes that stand for no text in place of the
second one, the status is that of a failure and there is no report. -/
theorem execute_status_files :
    (∃ report, ((testing "info").execute (withFiles nothingPrinted)).1.number = 1 ∧
      ((testing "info").execute (withFiles nothingPrinted)).2.out =
        (openingEvents (fileSettings "info")).zipWith Log.Event.jsonLine [⟨0, 0⟩, ⟨1, 0⟩] ++
          logLines (fileSettings "info") ticking 2 (fileRun "info" nothingPrinted).events ++
            [report] ∧
        ReportFormat.json.States report 2 1) ∧
      ((testing "info").execute (withFiles noText)).1.number = 2 ∧
        ((testing "info").execute (withFiles noText)).2.out =
          (openingEvents (fileSettings "info")).zipWith Log.Event.jsonLine [⟨0, 0⟩, ⟨1, 0⟩] ++
            logLines (fileSettings "info") ticking 2 (fileRun "info" noText).events := by
  have has := hasResults_files "info"
  have asked := asks_files "info" nothingPrinted
  have asked' := asks_files "info" noText
  obtain ⟨run, paths, rejected, report, asks, discovered, rejections, one, -, out, counts⟩ :=
    (execute_status rfl (unskipped_files "info" nothingPrinted)).2 (asked.not_fails has)
  obtain ⟨failed, quiet⟩ := (execute_status rfl (unskipped_files "info" noText)).1
    (.run asked' (breaks_files "info"))
  cases asks.unique asked
  cases discovered.unique has.discovered
  have counted : rejected = 1 := rejections.unique has.rejections
  rw [← preamble_files, ← preamble_files]
  refine ⟨⟨report, one.2 (has.rejections.pos_iff.1 (by decide)), out, counted ▸ counts⟩, failed,
    ?_⟩
  rcases quiet with ⟨unasked, -⟩ | ⟨run, asks, out⟩
  · exact absurd asked' (unasked _)
  · cases asks.unique asked'
    exact out

end CommandLine

end Conformance
