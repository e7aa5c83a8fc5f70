import Conformance.Discovery.Scan
import Conformance.Recognition.Invocation
import Conformance.Run.Assembly
import Conformance.Settings.File
import Conformance.Symbol.Resolution

/-!
# Conformance runs

A run finds the lexer and the parser of the grammar once and then tests one source after the other.
A rejected source is a result, and the run goes on with the next one. Anything else that goes wrong
ends the run.
-/

namespace Conformance

/-- Why a run ended early. -/
inductive RunError where
  /-- The settings make no sense. -/
  | settings (error : SettingsError)
  /-- The sources could not be found. -/
  | discovery (error : DiscoveryError)
  /-- The grammar has no lexer or no parser. -/
  | resolution (error : ResolutionError)
  /-- The parser for a source could not be set up. -/
  | assembly (error : AssemblyError)
  /-- The start rule gave no result. -/
  | invocation (error : InvocationError)
  deriving Repr, DecidableEq, Inhabited

namespace RunError

/-- The text of the error. -/
def message : RunError → String
  | .settings error => "Configuration failed: " ++ error.message
  | .discovery error => "Source discovery failed: " ++ error.message
  | .resolution error => "Symbol resolution failed: " ++ error.message
  | .assembly error => "Pipeline failed: " ++ error.message
  | .invocation error => "Rule invocation failed: " ++ error.message

/-- The code of the error. -/
def code : RunError → Log.Code
  | .settings error => error.code
  | .discovery error => error.code
  | .resolution error => error.code
  | .assembly error => error.code
  | .invocation error => error.code

end RunError

/-- How a run ended. -/
inductive Outcome where
  /-- Nothing was tested. -/
  | skipped
  /-- All sources were tested. -/
  | completed (collector : Collector)
  deriving Repr, DecidableEq, Inhabited

/-- What the outcome of a run says about the sources. -/
inductive Verdict where
  /-- All were accepted. -/
  | passed
  /-- Some were rejected. -/
  | failed
  /-- None was tested. -/
  | skipped
  deriving Repr, DecidableEq, Inhabited

namespace Outcome

/-- The verdict of an outcome. -/
def verdict : Outcome → Verdict
  | .skipped => .skipped
  | .completed collector => if collector.hasFailed then .failed else .passed

/-- The results of an outcome. -/
def collector? : Outcome → Option Collector
  | .skipped => none
  | .completed collector => some collector

end Outcome

/-- What a run works with. -/
structure Run where
  /-- What is tested. -/
  settings : Settings
  /-- Where the grammar is looked for. -/
  registry : Registry
  /-- Where the sources are looked for. -/
  tree : FileTree

namespace Run

/-- Find the lexer and the parser of a grammar. -/
def assemble (run : Run) (identity : GrammarIdentity) : Log.Attempt RunError Assembly := do
  let (lexerName, constructLexer) ←
    (run.registry.resolveLexer identity).adapt RunError.resolution
  let (parserName, constructParser) ←
    (run.registry.resolveParser identity).adapt RunError.resolution
  return { lexerName, constructLexer, parserName, constructParser }

/-- Test one source. -/
def testFile (run : Run) (assembly : Assembly) (path : String) :
    Log.Attempt RunError SourceResult := do
  Log.emit (.info ("Parse file '" ++ Path.join run.tree.startPath path ++ "'...")) []
  let parser ← (assembly.build run.tree ⟨path, run.settings.encoding⟩).adapt RunError.assembly
  (parser.test run.settings.startRule).adapt RunError.invocation

/-- Test sources after those that have results already. -/
def testFrom (run : Run) (assembly : Assembly) (collector : Collector) :
    List String → Log.Attempt RunError Collector
  | [] => return collector
  | path :: paths => do
    let result ← run.testFile assembly path
    run.testFrom assembly (collector.add result) paths

/-- Test these sources in their order. -/
def testFiles (run : Run) (paths : List String) : Log.Attempt RunError Collector := do
  let identity ← Log.attempt (run.settings.identity.mapError RunError.settings)
  let assembly ← run.assemble identity
  let collector ← run.testFrom assembly .empty paths
  Log.emit (.success .runCompleted "Conformance run completed")
    [("grammar", identity.name), ("sources", toString collector.count),
      ("failed", toString collector.countFailed)]
  return collector

/-- Find the sources of the settings and test them, unless the settings say to skip that. -/
def execute (run : Run) : Log.Attempt RunError Outcome := do
  if run.settings.skip then
    Log.emit (.info "Execution skipped.") []
    return .skipped
  Log.attempt (run.settings.validate.mapError RunError.settings)
  let paths ← (FileSet.discover run.settings.fileSets run.tree).adapt RunError.discovery
  return .completed (← run.testFiles paths)

end Run

end Conformance
