import Conformance.Proofs.Log.Outcome
import Conformance.Run.Basic

/-!
# What a run answers

A run enters much into its journal, but what it answers does not depend on the journal: it is the
list of the results of the single sources in their order, or the first error among them, unless the
grammar has no implementation.
-/

namespace Conformance

open Log.Attempt

/-! ## A single source -/

/-- What becomes of the source of a parser when a rule is called. -/
def Parser.verdict (parser : Parser) (rule : String) : Except InvocationError SourceResult :=
  match RuleEntry.admit parser.table rule with
  | .error error => .error error
  | .ok () =>
    match (parser.invoke rule).1 with
    | .ok () => .ok (.accepted parser.sourceName)
    | .error (.cancelled cause) => .ok (.rejected parser.sourceName cause)
    | .error (.internal message) => .error (.unexpectedFailure rule message)
    | .error (.crashed crash) => .error (.crashed rule crash.text)

/-- A source has a result when the rule is admitted, and either accepts the source or is cancelled
with the cause of its rejection. -/
theorem Parser.verdict_eq_ok_iff {parser : Parser} {rule : String} {result : SourceResult} :
    parser.verdict rule = .ok result ↔ RuleEntry.admit parser.table rule = .ok () ∧
      ((parser.invoke rule).1 = .ok () ∧ result = .accepted parser.sourceName ∨
        ∃ cause, (parser.invoke rule).1 = .error (.cancelled cause) ∧
          result = .rejected parser.sourceName cause) := by
  unfold verdict
  cases RuleEntry.admit parser.table rule with
  | error error => simp
  | ok admitted =>
    cases (parser.invoke rule).1 with
    | ok accepted => simp [eq_comm]
    | error failure =>
      cases failure with
      | cancelled cause => simp [eq_comm]
      | internal message => simp
      | crashed crash => simp

/-- Testing a source yields what becomes of it. -/
theorem Parser.yields_test (parser : Parser) (rule : String) :
    (parser.test rule).Yields (parser.verdict rule) := by
  refine Yields.withFile ?_ parser.sourceName
  unfold call verdict
  cases RuleEntry.admit parser.table rule with
  | error error => exact (Yields.throw error).emit _ _
  | ok admitted =>
    cases (parser.invoke rule).1 with
    | ok accepted => exact (Yields.pure _).emit _ _
    | error failure =>
      cases failure with
      | cancelled cause => exact (Yields.pure _).emit _ _
      | internal message => exact (Yields.throw _).emit _ _
      | crashed crash => exact (Yields.throw _).emit _ _

/-- The parser on the text of a source file. -/
def Assembly.parserOf (assembly : Assembly) (tree : FileTree) (file : SourceFile) :
    Except AssemblyError Parser := do
  let (_, _, text) ← (file.decode tree).mapError .source
  (assembly.construct (.ofText file.path text)).mapError .construction

/-- Reading a source file yields the stream over its text. -/
theorem SourceFile.yields_read (file : SourceFile) (tree : FileTree) :
    (file.read tree).Yields
      ((file.decode tree).map fun decoded => CharStream.ofText file.path decoded.2.2) := by
  have read : (file.read tree).Yields
      (file.decode tree >>= fun decoded => .ok (CharStream.ofText file.path decoded.2.2)) :=
    (Yields.attempt (file.decode tree)).bind fun decoded => (Yields.pure _).emit _ _
  cases decoded : file.decode tree with
  | ok value =>
    rw [decoded] at read
    exact read
  | error error =>
    rw [decoded] at read
    exact read

/-- Setting up the parser for a source file yields the parser on its text. -/
theorem Assembly.yields_build (assembly : Assembly) (tree : FileTree) (file : SourceFile) :
    (assembly.build tree file).Yields (assembly.parserOf tree file) := by
  have prepared : (assembly.prepare tree file).Yields
      (((file.decode tree).map fun decoded =>
          CharStream.ofText file.path decoded.2.2).mapError .source >>= fun text =>
        (assembly.construct text).mapError .construction) :=
    ((file.yields_read tree).adapt _).bind fun text => Yields.attempt _
  have same : (((file.decode tree).map fun decoded =>
          CharStream.ofText file.path decoded.2.2).mapError .source >>= fun text =>
        (assembly.construct text).mapError .construction) = assembly.parserOf tree file := by
    unfold parserOf
    cases file.decode tree with
    | ok decoded => rfl
    | error error => rfl
  rw [same] at prepared
  refine prepared.follow fun result journal => ?_
  cases result with
  | ok parser => rfl
  | error error => rfl

/-- What becomes of a source. -/
def Run.judge (run : Run) (assembly : Assembly) (path : String) : Except RunError SourceResult := do
  let parser ← (assembly.parserOf run.tree ⟨path, run.settings.encoding⟩).mapError .assembly
  (parser.verdict run.settings.startRule).mapError .invocation

/-- Testing one source yields what becomes of it. -/
theorem Run.yields_testFile (run : Run) (assembly : Assembly) (path : String) :
    (run.testFile assembly path).Yields (run.judge assembly path) := by
  have built := assembly.yields_build run.tree ⟨path, run.settings.encoding⟩
  have tested := (built.adapt RunError.assembly).bind fun parser =>
    (parser.yields_test run.settings.startRule).adapt RunError.invocation
  exact tested.emit _ _

/-! ## The implementations -/

namespace Registry

/-- The lexer of a grammar. -/
def lexer? (registry : Registry) (identity : GrammarIdentity) :
    Except ResolutionError (String × LexerConstructor) := do
  let name := qualifiedName identity.scope identity.name Role.lexer.suffix
  match ← registry.implementation name identity.name .lexer with
  | .lexer name construct => .ok (name, construct)
  | .parser name _ => .error (.wrongCapability name .lexer)

/-- The parser of a grammar. -/
def parser? (registry : Registry) (identity : GrammarIdentity) :
    Except ResolutionError (String × ParserConstructor) := do
  let name := qualifiedName identity.scope identity.name Role.parser.suffix
  match ← registry.implementation name identity.name .parser with
  | .parser name construct => .ok (name, construct)
  | .lexer name _ => .error (.wrongCapability name .parser)

/-- Finding an implementation yields the one of the qualified name. -/
theorem yields_resolve (registry : Registry) (scope grammar : String) (role : Role) :
    (registry.resolve scope grammar role).Yields
      (registry.implementation (qualifiedName scope grammar role.suffix) grammar role) := by
  unfold resolve
  refine Yields.emit ?_ _ _
  cases registry.implementation (qualifiedName scope grammar role.suffix) grammar role with
  | ok found => exact (Yields.pure found).emit _ _
  | error failure => exact (Yields.throw failure).emit _ _

/-- Finding the lexer of a grammar yields it. -/
theorem yields_resolveLexer (registry : Registry) (identity : GrammarIdentity) :
    (registry.resolveLexer identity).Yields (registry.lexer? identity) := by
  refine (registry.yields_resolve identity.scope identity.name .lexer).bind fun found => ?_
  cases found with
  | lexer name construct => exact Yields.pure _
  | parser name construct => exact Yields.throw _

/-- Finding the parser of a grammar yields it. -/
theorem yields_resolveParser (registry : Registry) (identity : GrammarIdentity) :
    (registry.resolveParser identity).Yields (registry.parser? identity) := by
  refine (registry.yields_resolve identity.scope identity.name .parser).bind fun found => ?_
  cases found with
  | parser name construct => exact Yields.pure _
  | lexer name construct => exact Yields.throw _

end Registry

namespace Run

/-- The implementations of a grammar. -/
def assemblyOf (run : Run) (identity : GrammarIdentity) : Except RunError Assembly := do
  let (lexerName, constructLexer) ← (run.registry.lexer? identity).mapError .resolution
  let (parserName, constructParser) ← (run.registry.parser? identity).mapError .resolution
  return { lexerName, constructLexer, parserName, constructParser }

/-- Finding the implementations of a grammar yields them. -/
theorem yields_assemble (run : Run) (identity : GrammarIdentity) :
    (run.assemble identity).Yields (run.assemblyOf identity) :=
  ((run.registry.yields_resolveLexer identity).adapt _).bind fun _ =>
    ((run.registry.yields_resolveParser identity).adapt _).bind fun _ => Yields.pure _

/-- The implementations of the grammar of the settings. -/
def assembly? (run : Run) : Except RunError Assembly := do
  run.assemblyOf (← run.settings.identity.mapError .settings)

/-! ## Sources -/

/-- What a run answers on sources: a result for each of them, or the first error. -/
def answer (run : Run) (paths : List String) : Except RunError (List SourceResult) := do
  let assembly ← run.assembly?
  paths.mapM (run.judge assembly)

/-- Testing sources adds what becomes of them to the results. -/
theorem yields_testFrom (run : Run) (assembly : Assembly) (collector : Collector)
    (paths : List String) :
    (run.testFrom assembly collector paths).Yields
      ((paths.mapM (run.judge assembly)).map fun results =>
        ⟨collector.results ++ results.toArray⟩) := by
  induction paths generalizing collector with
  | nil =>
    have same : collector = ⟨collector.results ++ #[]⟩ := by rw [Array.append_empty]
    rw [List.mapM_nil]
    exact same ▸ Yields.pure collector
  | cons path paths ih =>
    have tested := (run.yields_testFile assembly path).bind fun result =>
      ih (collector.add result)
    have same : (run.judge assembly path >>= fun result =>
          (paths.mapM (run.judge assembly)).map fun results =>
            (⟨(collector.add result).results ++ results.toArray⟩ : Collector)) =
        ((path :: paths).mapM (run.judge assembly)).map fun results =>
          ⟨collector.results ++ results.toArray⟩ := by
      rw [List.mapM_cons]
      cases run.judge assembly path with
      | error error => rfl
      | ok result =>
        cases paths.mapM (run.judge assembly) with
        | error error => rfl
        | ok results =>
          have joined : (collector.add result).results ++ results.toArray =
              collector.results ++ (result :: results).toArray := by
            simp [Collector.add]
          exact congrArg (fun all => Except.ok (Collector.mk all)) joined
    exact same ▸ tested

/-- Testing sources yields the answer of the run. -/
theorem yields_testFiles (run : Run) (paths : List String) :
    (run.testFiles paths).Yields ((run.answer paths).map fun results => ⟨results.toArray⟩) := by
  let collected (results : List SourceResult) : Collector := ⟨results.toArray⟩
  have tested (assembly : Assembly) : (run.testFrom assembly .empty paths).Yields
      ((paths.mapM (run.judge assembly)).map collected) := by
    have found := run.yields_testFrom assembly .empty paths
    simpa only [Collector.empty, Array.empty_append] using found
  have completed := (Yields.attempt (run.settings.identity.mapError RunError.settings)).bind
    fun identity => (run.yields_assemble identity).bind fun assembly =>
      (tested assembly).bind fun collector =>
        (Yields.pure collector).emit (.success .runCompleted "Conformance run completed")
          [("grammar", identity.name), ("sources", toString collector.count),
            ("failed", toString collector.countFailed)]
  have same : (run.settings.identity.mapError RunError.settings >>= fun identity =>
      run.assemblyOf identity >>= fun assembly =>
        (paths.mapM (run.judge assembly)).map collected >>= Except.ok) =
        (run.answer paths).map collected := by
    unfold answer assembly?
    cases run.settings.identity with
    | error error => rfl
    | ok identity =>
      change (run.assemblyOf identity >>= fun assembly =>
          (paths.mapM (run.judge assembly)).map collected >>= Except.ok) =
        (run.assemblyOf identity >>= fun assembly => paths.mapM (run.judge assembly)).map collected
      cases run.assemblyOf identity with
      | error error => rfl
      | ok assembly => exact bind_pure ((paths.mapM (run.judge assembly)).map collected)
  exact same ▸ completed

end Run

end Conformance
