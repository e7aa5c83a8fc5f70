import Conformance.CommandLine.Words
import Conformance.Run.Basic

/-!
# Settings of a command line

The settings of a command line stand over those of its settings file, which stand over those of the
environment. The patterns of the command line belong to its directory, which is a file set of its
own after those of the file.
-/

namespace Conformance

/-- Why a command fails. -/
inductive CommandError where
  /-- There are patterns without a directory. -/
  | patternsWithoutDirectory
  /-- The start rule is given nowhere. -/
  | missingStartRule
  /-- The grammar is given nowhere. -/
  | missingGrammar
  /-- There are no settings to work with. -/
  | settings (error : SettingsError)
  /-- A grammar of the program could not be published. -/
  | registry (error : RegistryError)
  /-- The log could not be set up. -/
  | log (reason : String)
  /-- The run ended early. -/
  | run (error : RunError)
  deriving Repr, DecidableEq, Inhabited

namespace CommandError

/-- The text of the error. -/
def message : CommandError → String
  | .patternsWithoutDirectory => "--include and --exclude need a --dir to apply to"
  | .missingStartRule => "--start-rule is required when no --config file is given"
  | .missingGrammar => "--grammar is required when no --config file is given"
  | .settings error => error.message
  | .registry error => "Linked grammar failed to register: " ++ error.message
  | .log reason => "Logging initialization failed: " ++ reason
  | .run error => error.message

/-- The code of the error. -/
def code : CommandError → Log.Code
  | .patternsWithoutDirectory => .invalidConfiguration
  | .missingStartRule => .invalidConfiguration
  | .missingGrammar => .invalidConfiguration
  | .settings error => error.code
  | .registry error => error.code
  | .log _ => .initializationFailure
  | .run error => error.code

end CommandError

namespace CommandLine

/-- Patterns have a directory, and what to test is given or there is a settings file. -/
def check (line : CommandLine) : Except CommandError Unit := do
  if line.directory.isNone && !(line.includes.isEmpty && line.excludes.isEmpty) then
    throw .patternsWithoutDirectory
  if line.config.isNone then
    if line.startRule.isNone then throw .missingStartRule
    if line.grammar.isNone then throw .missingGrammar

/-- The file set of the directory. -/
def fileSet? (line : CommandLine) : Option FileSet :=
  line.directory.map fun directory =>
    let included := line.includes.foldl FileSet.including (FileSet.ofDirectory directory)
    line.excludes.foldl FileSet.excluding included

/-- The settings with those of the command line over them. -/
def overlay (line : CommandLine) (settings : Settings) : Settings where
  startRule := line.startRule.getD settings.startRule
  grammar := line.grammar.getD settings.grammar
  scope := line.scope.getD settings.scope
  encoding := line.encoding.getD settings.encoding
  skip := line.skip || settings.skip
  fileSets := settings.fileSets ++ line.fileSet?.toList
  logging :=
    ⟨line.logLevel.getD settings.logging.level,
      line.structuredLogs || settings.logging.structured⟩

/-- The settings below those of the command line. -/
def base (line : CommandLine) (environment : Environment) (tree : FileTree) :
    Except SettingsError Settings :=
  match line.config with
  | some path => Settings.read environment tree path
  | none => .ok ((Settings.ofEnvironment environment).override environment)

/-- The checked settings of the command line. -/
def settings (line : CommandLine) (environment : Environment) (tree : FileTree) :
    Except CommandError Settings := do
  line.check
  let settings := line.overlay (← (line.base environment tree).mapError CommandError.settings)
  settings.validate.mapError CommandError.settings
  return settings

end CommandLine

end Conformance
