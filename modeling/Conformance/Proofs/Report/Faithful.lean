import Conformance.Proofs.Recognition.Messages
import Conformance.Proofs.Run.Composition
import Conformance.Proofs.Text.JsonUnique
import Conformance.Report.Format

/-!
# Reports tell what was collected

A report in text is read line by line. Paths without line breaks and messages on one line leave the
breaks between the lines as the only ones, so cutting the report at its line breaks gives the
rejected sources with their messages and the counts back. A report in JSON tells the same.
-/

namespace Conformance

namespace Collector

/-- Results that are added one after the other come behind those there are. -/
theorem toList_results_foldl (collector : Collector) (results : List SourceResult) :
    (results.foldl add collector).results.toList = collector.results.toList ++ results := by
  induction results generalizing collector with
  | nil => rw [List.foldl_nil, List.append_nil]
  | cons result results ih => rw [List.foldl_cons, ih, toList_results_add, List.append_assoc,
      List.singleton_append]

/-- The collector of some results. -/
def ofList (results : List SourceResult) : Collector :=
  results.foldl add empty

/-- The results of the collector are the ones given. -/
@[simp] theorem toList_results_ofList (results : List SourceResult) :
    (ofList results).results.toList = results :=
  (toList_results_foldl empty results).trans (List.nil_append results)

/-- The collector of some results holds them as they are. -/
theorem ofList_eq (results : List SourceResult) : ofList results = ⟨results.toArray⟩ := by
  have same : (ofList results).results = results.toArray := by
    apply Array.ext'
    rw [toList_results_ofList]
  exact congrArg Collector.mk same

/-- It counts them all. -/
@[simp] theorem count_ofList (results : List SourceResult) :
    (ofList results).count = results.length := by
  rw [count, ← Array.length_toList, toList_results_ofList]

/-- Its failures are those among them. -/
@[simp] theorem failures_ofList (results : List SourceResult) :
    (ofList results).failures = results.filter SourceResult.hasFailed := by
  rw [failures, toList_results_ofList]

/-- A collector tells that a source was rejected when it counts one. -/
theorem hasFailed_iff (collector : Collector) :
    collector.hasFailed = true ↔ 0 < collector.countFailed := by
  rw [hasFailed, countFailed, failures, List.length_filter_pos_iff, Array.any_eq_true']
  simp only [Array.mem_toList_iff]

end Collector

namespace Report

/-! ## What a report is to tell -/

/-- The rejected sources with their messages, in order. -/
def rejections (results : List SourceResult) : List (String × String) :=
  results.filterMap fun result => result.rejection.map fun cause => (result.file, cause.message)

/-- The line of a rejected source with its message. -/
def rejectionLine (rejected : String × String) : String :=
  "  " ++ rejected.1 ++ ": " ++ rejected.2

/-- The lines of a page on results: the rejected sources under a heading with an empty line behind
them, if there are any, and the counts. -/
def page (results : List SourceResult) : List String :=
  let rejected := rejections results
  let counts := "Sources parsed: " ++ toString results.length ++ ", Failed: " ++
    toString rejected.length
  if rejected = [] then [counts]
  else ["Failed sources:"] ++ rejected.map rejectionLine ++ ["", counts]

/-- The entry of a result: a source is marked as rejected just when there is a message. -/
def entry (result : SourceResult) : JsonValue :=
  match result.rejection with
  | none => .record [("tested_file", .text result.file), ("failed", .flag false), ("error", .null)]
  | some cause =>
    .record [("tested_file", .text result.file), ("failed", .flag true),
      ("error", .text cause.message)]

/-! ## What it tells -/

/-- The lines of the rejected sources are those of their paths and messages. -/
theorem map_failureLine (results : List SourceResult) :
    (results.filter SourceResult.hasFailed).map failureLine =
      (rejections results).map rejectionLine := by
  induction results with
  | nil => rfl
  | cons result results ih =>
    obtain ⟨file, rejection⟩ := result
    cases rejection with
    | none => exact ih
    | some cause =>
      have failed : SourceResult.hasFailed ⟨file, some cause⟩ = true := rfl
      have first : rejections (⟨file, some cause⟩ :: results) =
        (file, cause.message) :: rejections results := rfl
      have line : failureLine ⟨file, some cause⟩ = rejectionLine (file, cause.message) := by
        simp only [failureLine, rejectionLine, SourceResult.message?, Option.map_some,
          Option.getD_some]
      rw [List.filter_cons_of_pos failed, List.map_cons, ih, first, List.map_cons, line]

/-- As many sources are rejected as there are paths with messages. -/
theorem countFailed_ofList (results : List SourceResult) :
    (Collector.ofList results).countFailed = (rejections results).length := by
  have lines := congrArg List.length (map_failureLine results)
  rwa [List.length_map, List.length_map, ← Collector.failures_ofList] at lines

/-- The lines of a report are those of its page. -/
theorem lines_ofList (results : List SourceResult) :
    lines (Collector.ofList results) = page results := by
  have counts : countLine (Collector.ofList results) = "Sources parsed: " ++
      toString results.length ++ ", Failed: " ++ toString (rejections results).length := by
    unfold countLine
    rw [Collector.count_ofList, countFailed_ofList]
  have some : (Collector.ofList results).hasFailed = true ↔ rejections results ≠ [] := by
    rw [Collector.hasFailed_iff, countFailed_ofList, List.length_pos_iff]
  unfold lines page
  dsimp only
  by_cases none : rejections results = []
  · rw [if_neg (fun failed => some.1 failed none), if_pos none, counts]
  · rw [if_pos (some.2 none), if_neg none, Collector.failures_ofList, map_failureLine, counts,
      List.singleton_append]

/-- The record of a result is its entry. -/
theorem record_eq_entry (result : SourceResult) : result.record = entry result := by
  obtain ⟨file, rejection⟩ := result
  cases rejection with
  | none => rfl
  | some cause => rfl

/-- A report in JSON stands for one value, the counts and the entries of the results. -/
theorem isDocument_json_iff (results : List SourceResult) (grammar startRule : String)
    (time : Timestamp) (value : JsonValue) :
    value.IsDocument (json (Collector.ofList results) grammar startRule time).toList ↔
      value = .record [
        ("grammar", .text grammar),
        ("start_rule", .text startRule),
        ("generated_at", .text (time.format "Z")),
        ("total", .number results.length),
        ("failed", .number (rejections results).length),
        ("results", .list (results.map entry))] := by
  have entries : results.map SourceResult.record = results.map entry :=
    List.map_congr_left fun result _ => record_eq_entry result
  rw [json, JsonValue.isDocument_pretty_iff, record, Collector.count_ofList, countFailed_ofList,
    Collector.toList_results_ofList, entries]

/-! ## Line breaks -/

/-- A text without line breaks. -/
def Unbroken (text : String) : Prop :=
  '\n' ∉ text.toList

instance (text : String) : Decidable (Unbroken text) :=
  inferInstanceAs (Decidable ('\n' ∉ text.toList))

/-- A plain text has no line breaks. -/
theorem unbroken_of_plain {text : String} (plain : Text.Plain text) : Unbroken text :=
  fun member => (plain '\n' member).1 rfl

/-- Texts without line breaks, one behind the other, have none. -/
theorem Unbroken.append {text other : String} (first : Unbroken text) (second : Unbroken other) :
    Unbroken (text ++ other) := by
  unfold Unbroken
  rw [String.toList_append, List.mem_append]
  exact not_or.2 ⟨first, second⟩

/-- A page has at least one line. -/
theorem page_ne_nil (results : List SourceResult) : page results ≠ [] := by
  unfold page
  dsimp only
  split_ifs
  · exact List.cons_ne_nil _ _
  · exact List.cons_ne_nil _ _

/-- The lines of a page are unbroken where paths and messages are. -/
theorem unbroken_page {results : List SourceResult}
    (unbroken : ∀ rejected ∈ rejections results, Unbroken rejected.1 ∧ Unbroken rejected.2) :
    ∀ line ∈ page results, Unbroken line := by
  have counts : Unbroken ("Sources parsed: " ++ toString results.length ++ ", Failed: " ++
      toString (rejections results).length) := by
    have parsed : Unbroken "Sources parsed: " := by decide
    have failed : Unbroken ", Failed: " := by decide
    have number (count : Nat) : Unbroken (toString count) :=
      unbroken_of_plain (Text.plain_toString count)
    exact ((parsed.append (number _)).append failed).append (number _)
  have rejected : ∀ line ∈ (rejections results).map rejectionLine, Unbroken line := by
    have margin : Unbroken "  " := by decide
    have colon : Unbroken ": " := by decide
    intro line listed
    obtain ⟨rejected, known, rfl⟩ := List.mem_map.1 listed
    obtain ⟨path, message⟩ := unbroken rejected known
    exact ((margin.append path).append colon).append message
  intro line listed
  unfold page at listed
  dsimp only at listed
  split_ifs at listed
  · rw [List.mem_singleton.1 listed]
    exact counts
  · simp only [List.mem_append, List.mem_cons, List.not_mem_nil, or_false] at listed
    rcases listed with (rfl | known) | rfl | rfl
    · decide
    · exact rejected line known
    · decide
    · exact counts

/-- Cut at its line breaks, a report falls into the lines of its page where paths and messages are
unbroken. -/
theorem splitOn_text {results : List SourceResult}
    (unbroken : ∀ rejected ∈ rejections results, Unbroken rejected.1 ∧ Unbroken rejected.2) :
    (text (Collector.ofList results)).toList.splitOn '\n' = (page results).map String.toList := by
  rw [text, lines_ofList, String.toList_intercalate]
  apply List.splitOn_intercalate
  · intro chars listed
    obtain ⟨line, known, rfl⟩ := List.mem_map.1 listed
    exact unbroken_page unbroken line known
  · exact fun nothing => page_ne_nil results (List.map_eq_nil_iff.1 nothing)

/-- What is rejected has a result with the path and an error with the message. -/
theorem exists_of_mem_rejections {results : List SourceResult} {rejected : String × String}
    (listed : rejected ∈ rejections results) : ∃ result ∈ results, ∃ cause,
      result.rejection = some cause ∧ rejected = (result.file, cause.message) := by
  obtain ⟨result, known, same⟩ := List.mem_filterMap.1 listed
  obtain ⟨cause, rejection, told⟩ := Option.map_eq_some_iff.1 same
  exact ⟨result, known, cause, rejection, told.symm⟩

/-- The report on results whose rejections come from Snafu or Word, and whose paths hold no line
breaks, tells them in full. All messages are plain; the text, cut at its line breaks, falls into
the heading, a line with path and message for each rejected source in order, an empty line and the
counts; these are the numbers of the results and of the rejected ones; and the JSON stands for the
same results. -/
theorem faithful {results : List SourceResult}
    (raised : ∀ result ∈ results, ∀ cause, result.rejection = some cause → cause.Raised)
    (paths : ∀ result ∈ results, '\n' ∉ result.file.toList) :
    let collector := results.foldl Collector.add .empty
    (∀ rejected ∈ rejections results, Text.Plain rejected.2) ∧
    (text collector).toList.splitOn '\n' = (page results).map String.toList ∧
    (collector.count = results.length ∧ collector.countFailed = (rejections results).length ∧
      collector.countFailed + collector.countPassed = collector.count ∧
      (collector.hasFailed = true ↔ 0 < collector.countFailed)) ∧
    ∀ grammar startRule time value,
      JsonValue.IsDocument value (json collector grammar startRule time).toList ↔
        value = .record [
          ("grammar", .text grammar),
          ("start_rule", .text startRule),
          ("generated_at", .text (time.format "Z")),
          ("total", .number results.length),
          ("failed", .number (rejections results).length),
          ("results", .list (results.map entry))] := by
  intro collector
  have plain : ∀ rejected ∈ rejections results, Text.Plain rejected.2 := by
    intro rejected listed
    obtain ⟨result, known, cause, rejection, rfl⟩ := exists_of_mem_rejections listed
    exact (raised result known cause rejection).plain
  have unbroken : ∀ rejected ∈ rejections results, Unbroken rejected.1 ∧ Unbroken rejected.2 := by
    intro rejected listed
    refine ⟨?_, unbroken_of_plain (plain rejected listed)⟩
    obtain ⟨result, known, cause, rejection, rfl⟩ := exists_of_mem_rejections listed
    exact paths result known
  have counts : collector.count = results.length := Collector.count_ofList results
  exact ⟨plain, splitOn_text unbroken,
    ⟨counts, countFailed_ofList results, collector.countFailed_add_countPassed,
      collector.hasFailed_iff⟩,
    isDocument_json_iff results⟩

/-- The error at a string that holds a line break behind a backslash and is no statement. -/
def brokenString : RecognitionError :=
  ⟨.mismatch "\x7b'let', 'print'\x7d",
    ⟨Snafu.stringKind, "\"\\\n\"", .visible, ⟨1, 0⟩, 0⟩, [Snafu.letKind, Snafu.printKind]⟩

/-- The parser of Snafu rejects a string with a line break in it, and the report shows the string
on the line of its source. -/
theorem faithful_brokenString :
    brokenString.Raised ∧
      (text ([.accepted "a", .rejected "b" brokenString].foldl Collector.add
        .empty)).toList.splitOn '\n' =
          ["Failed sources:",
            "  b: line 1:0 mismatched input '\"\\\\n\"' expecting \x7b'let', 'print'\x7d",
            "", "Sources parsed: 2, Failed: 1"].map String.toList := by
  have cancelled : ((Snafu.grammar.parserUnder .failFast
      (Snafu.grammar.lexer (.ofText "b" "\"\\\n\""))).invoke "statement").1 =
        .error (.cancelled brokenString) := by decide +kernel
  have raised : brokenString.Raised :=
    ⟨Snafu.grammar, _, "statement", .inl rfl, .parserUnder _ _ _, cancelled⟩
  have results : ∀ result ∈ [SourceResult.accepted "a", .rejected "b" brokenString],
      ∀ cause, result.rejection = some cause → cause.Raised := by
    simpa [SourceResult.accepted, SourceResult.rejected] using raised
  have lines : page [.accepted "a", .rejected "b" brokenString] =
      ["Failed sources:",
        "  b: line 1:0 mismatched input '\"\\\\n\"' expecting \x7b'let', 'print'\x7d",
        "", "Sources parsed: 2, Failed: 1"] := by decide +kernel
  have told := (faithful results (by decide)).2.1
  rw [lines] at told
  exact ⟨raised, told⟩

end Report

/-! ## The report of a run -/

namespace Run

variable {run : Run}

/-- What a source is rejected at in a run is raised by Snafu or by Word. -/
theorem raised_of_judge {assembly : Assembly} (known : assembly.Known) {path : String}
    {result : SourceResult} (judged : run.judge assembly path = .ok result) :
    ∀ cause, result.rejection = some cause → cause.Raised := by
  intro cause rejection
  obtain ⟨parser, prepared, called⟩ := Log.exists_of_bind_eq_ok judged
  obtain ⟨grammar, language, offers⟩ := known.offers (Log.eq_ok_of_mapError prepared)
  obtain ⟨-, ended⟩ := Parser.verdict_eq_ok_iff.1 (Log.eq_ok_of_mapError called)
  rcases ended with ⟨accepted, rfl⟩ | ⟨raised, cancelled, rfl⟩
  · cases rejection
  · cases rejection
    exact ⟨grammar, parser, _, language, offers, cancelled⟩

/-- The report of a run on files without line breaks in their paths falls into the lines of the page
on its results. -/
theorem splitOn_report (known : run.registry.Known) {paths : List String}
    (unbroken : ∀ path ∈ paths, Report.Unbroken path) {journal : Log.Journal}
    {collector : Collector} (returned : run.returns paths journal = .ok collector) :
    (Report.text collector).toList.splitOn '\n' =
      (Report.page collector.results.toList).map String.toList := by
  obtain ⟨results, answered, collected⟩ :
      ∃ results, run.answer paths = .ok results ∧ collector = Collector.ofList results := by
    rw [returns_eq] at returned
    cases answered : run.answer paths with
    | error error =>
      rw [answered] at returned
      cases returned
    | ok results =>
      rw [answered] at returned
      exact ⟨results, rfl, (Except.ok.inj returned).symm.trans (Collector.ofList_eq results).symm⟩
  obtain ⟨assembly, found, judged⟩ := Log.exists_of_bind_eq_ok answered
  have assembled := known_of_assembly? known found
  rw [collected, Collector.toList_results_ofList]
  apply Report.splitOn_text
  intro rejected listed
  obtain ⟨result, member, cause, rejection, rfl⟩ := Report.exists_of_mem_rejections listed
  obtain ⟨path, listed, judged⟩ := exists_of_mem_mapM judged member
  obtain ⟨content, -, told⟩ := judge_eq_ok assembled judged
  have raised := raised_of_judge assembled judged cause rejection
  refine ⟨?_, Report.unbroken_of_plain raised.plain⟩
  rw [told]
  exact unbroken path listed

end Run

end Conformance
