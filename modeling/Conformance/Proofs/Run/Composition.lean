import Conformance.Proofs.Files.Tree
import Conformance.Proofs.Run.Source

/-!
# Runs are composed of their sources

A run on the sources of two lists is a run on those of the first and then one on those of the
second. Nothing is carried over from one source to the next, a rejected source is a result like
any other, and the first source that fails for another reason decides the error.
-/

namespace Conformance

/-! ## Lists of sources -/

section Lists

variable {ε α β : Type} {f : α → Except ε β}

/-- One step on its own fails as it does in a list of its own. -/
theorem mapM_singleton_eq_error_iff (f : α → Except ε β) (x : α) (error : ε) :
    [x].mapM f = .error error ↔ f x = .error error := by
  rw [List.mapM_cons, List.mapM_nil]
  cases f x with
  | error cause =>
    change (Except.error cause : Except ε (List β)) = .error error ↔ _
    rw [Except.error.injEq, Except.error.injEq]
  | ok y => exact ⟨nofun, nofun⟩

/-- An outcome fails when what becomes of its value does. -/
theorem map_eq_error_iff {outcome : Except ε α} {g : α → β} {error : ε} :
    outcome.map g = .error error ↔ outcome = .error error := by
  cases outcome with
  | error cause =>
    rw [Except.map, Except.error.injEq, Except.error.injEq]
  | ok value => exact ⟨nofun, nofun⟩

/-- An outcome returns when what becomes of its value does. -/
theorem exists_map_eq_ok_iff {outcome : Except ε α} {g : α → β} :
    (∃ value, outcome.map g = .ok value) ↔ ∃ value, outcome = .ok value := by
  cases outcome with
  | error cause =>
    constructor
    · rintro ⟨value, wrong⟩
      cases wrong
    · rintro ⟨value, wrong⟩
      cases wrong
  | ok value => exact ⟨fun _ => ⟨value, rfl⟩, fun _ => ⟨g value, rfl⟩⟩

end Lists

namespace Run

variable {run : Run}

/-- The answer on the sources of two lists is that on the first and then that on the second. -/
theorem answer_append (xs ys : List String) :
    run.answer (xs ++ ys) = do
      let first ← run.answer xs
      let second ← run.answer ys
      return first ++ second := by
  unfold answer
  cases run.assembly? with
  | error error => rfl
  | ok assembly => exact List.mapM_append

/-- What a run returns on sources, whatever it enters into a journal. -/
def returns (run : Run) (paths : List String) (journal : Log.Journal) :
    Except RunError Collector :=
  ((run.testFiles paths).run.run journal).1

/-- A run returns its answer. -/
theorem returns_eq (run : Run) (paths : List String) (journal : Log.Journal) :
    run.returns paths journal = (run.answer paths).map fun results => ⟨results.toArray⟩ :=
  run.yields_testFiles paths journal

/-- The start rule is cancelled on a source by an error. -/
def Rejects (run : Run) (path : String) (cause : RecognitionError) : Prop :=
  ∃ identity assembly parser, run.settings.identity = .ok identity ∧
    (run.assemble identity).Yields (.ok assembly) ∧
    (assembly.build run.tree ⟨path, run.settings.encoding⟩).Yields (.ok parser) ∧
    RuleEntry.admit parser.table run.settings.startRule = .ok () ∧
    (parser.invoke run.settings.startRule).1 = .error (.cancelled cause)

/-- A run returns on two lists what it returns on the first and then on the second. -/
theorem returns_append_eq_ok_iff (xs ys : List String) (before between whole : Log.Journal)
    (collector : Collector) :
    run.returns (xs ++ ys) whole = .ok collector ↔
      ∃ first second, run.returns xs before = .ok first ∧ run.returns ys between = .ok second ∧
        collector.results = first.results ++ second.results := by
  simp only [returns_eq, answer_append]
  cases run.answer xs with
  | error error =>
    constructor
    · intro returned
      cases returned
    · rintro ⟨first, second, wrong, -⟩
      cases wrong
  | ok first =>
    cases run.answer ys with
    | error error =>
      constructor
      · intro returned
        cases returned
      · rintro ⟨first, second, -, wrong, -⟩
        cases wrong
    | ok second =>
      constructor
      · intro returned
        cases returned
        exact ⟨_, _, rfl, rfl, (List.append_toArray first second).symm⟩
      · rintro ⟨_, _, sameFirst, sameSecond, joined⟩
        cases sameFirst
        cases sameSecond
        obtain ⟨results⟩ := collector
        have same : results = (first ++ second).toArray :=
          joined.trans (List.append_toArray first second)
        rw [same]
        rfl

/-- A run fails on two lists as it fails on the first, or else as it fails on the second. -/
theorem returns_append_eq_error_iff (xs ys : List String) (before between whole : Log.Journal)
    (error : RunError) :
    run.returns (xs ++ ys) whole = .error error ↔
      run.returns xs before = .error error ∨
        (∃ first, run.returns xs before = .ok first) ∧ run.returns ys between = .error error := by
  simp only [returns_eq, map_eq_error_iff, exists_map_eq_ok_iff, answer_append]
  cases run.answer xs with
  | error cause =>
    refine (or_iff_left ?_).symm
    rintro ⟨⟨first, wrong⟩, -⟩
    cases wrong
  | ok first =>
    cases run.answer ys with
    | error cause =>
      constructor
      · intro failed
        exact .inr ⟨⟨_, rfl⟩, failed⟩
      · rintro (wrong | ⟨-, failed⟩)
        · cases wrong
        · exact failed
    | ok second =>
      constructor
      · intro wrong
        cases wrong
      · rintro (wrong | ⟨-, wrong⟩)
        · cases wrong
        · cases wrong

/-- A run that returns has one result for each source, in their order. -/
theorem results_of_returns {assembly : Assembly} (found : run.assembly? = .ok assembly)
    (known : assembly.Known) {paths : List String} {journal : Log.Journal} {collector : Collector}
    (returned : run.returns paths journal = .ok collector) :
    collector.results.size = paths.length ∧
      ∀ (index : Nat) (path : String), paths[index]? = some path → ∃ content,
        SourceFile.content ⟨path, run.settings.encoding⟩ run.tree = .ok content ∧
          collector.results[index]? =
            some (SourceResult.mk path (assembly.rejection run.settings content.data)) := by
  rw [returns_eq, answer, found] at returned
  change (paths.mapM (run.judge assembly)).map _ = _ at returned
  cases judged : paths.mapM (run.judge assembly) with
  | error error =>
    rw [judged] at returned
    cases returned
  | ok results =>
    rw [judged] at returned
    cases returned
    have each := mapM_eq_ok_iff.1 judged
    refine ⟨each.length_eq.symm, fun index path listed => ?_⟩
    obtain ⟨inside, rfl⟩ := List.getElem?_eq_some_iff.1 listed
    have within : index < results.length := each.length_eq ▸ inside
    have here : run.judge assembly paths[index] = .ok results[index] := each.get inside within
    obtain ⟨content, read, same⟩ := judge_eq_ok known here
    refine ⟨content, read, ?_⟩
    rw [← same]
    simp

/-- A run fails when there are no implementations, or as the first source that fails. -/
theorem returns_eq_error_iff (paths : List String) (journal : Log.Journal) (error : RunError) :
    run.returns paths journal = .error error ↔
      run.returns [] journal = .error error ∨
        ∃ before path after, paths = before ++ path :: after ∧
          (∃ fine, run.returns before journal = .ok fine) ∧
            run.returns [path] journal = .error error := by
  simp only [returns_eq, exists_map_eq_ok_iff, map_eq_error_iff]
  unfold answer
  cases run.assembly? with
  | error cause =>
    constructor
    · exact .inl
    · rintro (same | ⟨before, path, after, -, ⟨fine, wrong⟩, -⟩)
      · exact same
      · cases wrong
  | ok assembly =>
    have single (path : String) := mapM_singleton_eq_error_iff (run.judge assembly) path error
    change paths.mapM (run.judge assembly) = .error error ↔
      [].mapM (run.judge assembly) = .error error ∨
        ∃ before path after, paths = before ++ path :: after ∧
          (∃ fine, before.mapM (run.judge assembly) = .ok fine) ∧
            [path].mapM (run.judge assembly) = .error error
    simp only [single]
    rw [mapM_eq_error_iff]
    exact (or_iff_right nofun).symm

/-- A rejected source is a result, and the run goes on. -/
theorem returns_of_rejects (known : run.registry.Known) {path : String} {cause : RecognitionError}
    (rejects : run.Rejects path cause) (paths : List String) (journal : Log.Journal) :
    run.returns (path :: paths) journal =
      (run.returns paths journal).map fun collector =>
        ⟨#[.rejected path cause] ++ collector.results⟩ := by
  obtain ⟨identity, assembly, parser, named, assembled, built, admitted, cancelled⟩ := rejects
  have found : run.assembly? = .ok assembly := by
    rw [assembly?, named]
    exact (run.yields_assemble identity).unique assembled
  have prepared : assembly.parserOf run.tree ⟨path, run.settings.encoding⟩ = .ok parser :=
    (assembly.yields_build run.tree ⟨path, run.settings.encoding⟩).unique built
  have name : parser.sourceName = path := (known_of_assembly? known found).sourceName prepared
  have judged : run.judge assembly path = .ok (.rejected path cause) := by
    rw [judge, prepared]
    change (parser.verdict run.settings.startRule).mapError RunError.invocation = _
    rw [Parser.verdict, admitted]
    simp only [cancelled, name]
    rfl
  rw [returns_eq, returns_eq, answer, answer, found]
  change ((path :: paths).mapM (run.judge assembly)).map _ =
    ((paths.mapM (run.judge assembly)).map _).map _
  rw [List.mapM_cons, judged]
  cases paths.mapM (run.judge assembly) with
  | error error => rfl
  | ok results =>
    have joined : (SourceResult.rejected path cause :: results).toArray =
        #[SourceResult.rejected path cause] ++ results.toArray :=
      (List.append_toArray [SourceResult.rejected path cause] results).symm
    exact congrArg (fun all => Except.ok (Collector.mk all)) joined

/-- A run of known implementations is composed of its sources. On two lists it returns just when it
returns on each, and then the results of the first before those of the second; otherwise it fails as
on the first, or else as on the second. A run that returns has one result for each source, in order
and under its path, and whether that is a rejection follows from the bytes of the source. A run that
fails does so without any source or as the first source that fails. A rejection is a result, and the
run goes on as without it. -/
theorem testFiles_compose (settings : Settings) (registry : Registry) (known : registry.Known) :
    (∀ (tree : FileTree) (xs ys : List String) (before between whole : Log.Journal),
      let run : Run := ⟨settings, registry, tree⟩
      (∀ collector, run.returns (xs ++ ys) whole = .ok collector ↔
        ∃ first second, run.returns xs before = .ok first ∧ run.returns ys between = .ok second ∧
          collector.results = first.results ++ second.results) ∧
      ∀ error, run.returns (xs ++ ys) whole = .error error ↔
        run.returns xs before = .error error ∨
          (∃ first, run.returns xs before = .ok first) ∧ run.returns ys between = .error error) ∧
    (∃ rejection : ByteArray → Option RecognitionError,
      ∀ (tree : FileTree) (paths : List String) (journal : Log.Journal) (collector : Collector),
        Run.returns ⟨settings, registry, tree⟩ paths journal = .ok collector →
          collector.results.size = paths.length ∧
          ∀ (index : Nat) (path : String), paths[index]? = some path → ∃ content,
            SourceFile.content ⟨path, settings.encoding⟩ tree = .ok content ∧
              collector.results[index]? = some (SourceResult.mk path (rejection content.data))) ∧
    (∀ (tree : FileTree) (paths : List String) (journal : Log.Journal) (error : RunError),
      let run : Run := ⟨settings, registry, tree⟩
      run.returns paths journal = .error error ↔
        run.returns [] journal = .error error ∨
          ∃ before path after, paths = before ++ path :: after ∧
            (∃ fine, run.returns before journal = .ok fine) ∧
              run.returns [path] journal = .error error) ∧
    ∀ (tree : FileTree) (path : String) (cause : RecognitionError),
      Run.Rejects ⟨settings, registry, tree⟩ path cause →
        ∀ (paths : List String) (journal : Log.Journal),
          Run.returns ⟨settings, registry, tree⟩ (path :: paths) journal =
            (Run.returns ⟨settings, registry, tree⟩ paths journal).map fun collector =>
              ⟨#[.rejected path cause] ++ collector.results⟩ := by
  refine ⟨fun tree xs ys before between whole => ⟨?_, ?_⟩, ?_, ?_, ?_⟩
  · exact returns_append_eq_ok_iff xs ys before between whole
  · exact returns_append_eq_error_iff xs ys before between whole
  · cases found : assembly? ⟨settings, registry, default⟩ with
    | error error =>
      refine ⟨fun _ => none, fun tree paths journal collector returned => ?_⟩
      have missing : assembly? ⟨settings, registry, tree⟩ = .error error := found
      rw [returns_eq, answer, missing] at returned
      cases returned
    | ok assembly =>
      have knownAssembly : assembly.Known := known_of_assembly? known found
      refine ⟨assembly.rejection settings, fun tree paths journal collector returned => ?_⟩
      have present : assembly? ⟨settings, registry, tree⟩ = .ok assembly := found
      exact results_of_returns present knownAssembly returned
  · exact fun tree paths journal error => returns_eq_error_iff paths journal error
  · exact fun tree path cause rejects => returns_of_rejects known rejects

/-- A run on a text of Word and on one without its semicolon, next to a lexer that refuses. -/
def ofWords : Run where
  settings := ⟨"sentence", "Word", "", "utf-8", false, [], ⟨"info", false⟩⟩
  registry := ⟨[.lexer "SnafuLexer" Word.refusingLexer, .lexer "WordLexer" Word.lexerConstructor,
    .parser "WordParser" Word.parserConstructor]⟩
  tree :=
    ⟨.directory [("a", .file (.bytes ⟨#[97, 59]⟩)), ("b", .file (.bytes ⟨#[98]⟩))], []⟩

/-- The implementations of Word in that run. -/
def wordAssembly : Assembly :=
  ⟨"WordLexer", Word.lexerConstructor, "WordParser", Word.parserConstructor⟩

/-- A text without its semicolon is rejected, and the text after it is accepted nevertheless. -/
theorem testFiles_compose_words :
    ofWords.registry.Known ∧
      ∃ cause, ofWords.Rejects "b" cause ∧
        ∀ journal, ofWords.returns ["b", "a"] journal =
          .ok ⟨#[.rejected "b" cause, .accepted "a"]⟩ := by
  have known : ofWords.registry.Known := by
    intro symbol member construct built
    simp only [ofWords, List.mem_cons, List.not_mem_nil, or_false] at member
    rcases member with rfl | rfl | rfl
    · cases built
      exact .failingLexer _
    · cases built
      exact .wordLexer
    · cases built
      exact .wordParser
  have found : ofWords.assembly? = .ok wordAssembly := by rfl
  have textA : SourceFile.decode ⟨"a", ofWords.settings.encoding⟩ ofWords.tree =
      .ok (.utf8, ⟨#[97, 59]⟩, "a;") := by
    have resolved : ofWords.tree.resolve "a" = .ok (["a"], .file (.bytes ⟨#[97, 59]⟩)) := by
      have texts : Path.texts "a" = ["a"] := by decide
      rw [FileTree.resolve, if_neg (by decide), if_neg (by decide), if_neg (by decide), texts,
        if_neg (by decide)]
      exact FileTree.follow_name rfl (by decide) (by decide)
    have content : SourceFile.content ⟨"a", ofWords.settings.encoding⟩ ofWords.tree =
        .ok (.bytes ⟨#[97, 59]⟩) := by
      rw [SourceFile.content, resolved]
      rfl
    exact SourceFile.decode_eq_ok_iff.2
      ⟨_, content, rfl, by decide +kernel, by decide +kernel⟩
  have textB : SourceFile.decode ⟨"b", ofWords.settings.encoding⟩ ofWords.tree =
      .ok (.utf8, ⟨#[98]⟩, "b") := by
    have resolved : ofWords.tree.resolve "b" = .ok (["b"], .file (.bytes ⟨#[98]⟩)) := by
      have texts : Path.texts "b" = ["b"] := by decide
      rw [FileTree.resolve, if_neg (by decide), if_neg (by decide), if_neg (by decide), texts,
        if_neg (by decide)]
      exact FileTree.follow_name rfl (by decide) (by decide)
    have content : SourceFile.content ⟨"b", ofWords.settings.encoding⟩ ofWords.tree =
        .ok (.bytes ⟨#[98]⟩) := by
      rw [SourceFile.content, resolved]
      rfl
    exact SourceFile.decode_eq_ok_iff.2
      ⟨_, content, rfl, by decide +kernel, by decide +kernel⟩
  have accepted (journal : Log.Journal) :
      ofWords.returns ["a"] journal = .ok ⟨#[.accepted "a"]⟩ := by
    have judged : ofWords.judge wordAssembly "a" = .ok (.accepted "a") := by
      rw [judge, Assembly.parserOf, textA]
      decide +kernel
    rw [returns_eq, answer, found]
    change (["a"].mapM (ofWords.judge wordAssembly)).map _ = _
    rw [List.mapM_cons, judged]
    rfl
  have rejects : ofWords.Rejects "b"
      ⟨.mismatch "';'", (Token.eof ⟨1, 1⟩).number 1, [Word.semicolonKind]⟩ := by
    let parser := (Word.grammar.parserOf (.ofText "b" "b")).withStrategy .failFast
    have prepared : wordAssembly.parserOf ofWords.tree ⟨"b", ofWords.settings.encoding⟩ =
        .ok parser := by
      rw [Assembly.parserOf, textB]
      rfl
    have assembled : ofWords.assemblyOf ⟨"", "Word"⟩ = .ok wordAssembly := by rfl
    have built := wordAssembly.yields_build ofWords.tree ⟨"b", ofWords.settings.encoding⟩
    rw [prepared] at built
    refine ⟨⟨"", "Word"⟩, wordAssembly, parser, by decide +kernel, ?_, built, ?_, ?_⟩
    · exact assembled ▸ ofWords.yields_assemble ⟨"", "Word"⟩
    · decide +kernel
    · decide +kernel
  refine ⟨known, _, rejects, fun journal => ?_⟩
  have goesOn := (testFiles_compose ofWords.settings ofWords.registry known).2.2.2 ofWords.tree "b"
    _ rejects ["a"] journal
  have last : Run.returns ⟨ofWords.settings, ofWords.registry, ofWords.tree⟩ ["a"] journal = _ :=
    accepted journal
  rw [last] at goesOn
  exact goesOn

end Run

end Conformance
