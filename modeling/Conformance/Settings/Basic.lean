import Conformance.Discovery.FileSet
import Conformance.Log.Preferences
import Conformance.Symbol.Identity

/-!
# Settings

The settings of a run say which rule of which grammar is tested on which files, and how the files
are encoded. They are valid when the rule, the encoding and the grammar are named and every file
set includes something. Two of them can be overridden by the environment.
-/

namespace Conformance

/-- Everything that a run needs to know. -/
structure Settings where
  /-- The rule that every source has to match. -/
  startRule : String
  /-- The name of the grammar. -/
  grammar : String
  /-- The namespace of the grammar. -/
  scope : String
  /-- The label of the encoding of the sources. -/
  encoding : String
  /-- Nothing is tested. -/
  skip : Bool
  /-- The sources. -/
  fileSets : List FileSet
  /-- What the log shows. -/
  logging : Log.Preferences
  deriving Repr, DecidableEq, Inhabited

/-- Why there are no settings to work with. -/
inductive SettingsError where
  /-- The file could not be read. -/
  | unreadable (path reason : String)
  /-- The file could not be understood. -/
  | malformed (path reason : String)
  /-- A setting has no sensible value. -/
  | invalid (field reason : String)
  deriving Repr, DecidableEq, Inhabited

namespace SettingsError

/-- The text of the error. -/
def message : SettingsError → String
  | .unreadable path reason => "Failed to read configuration '" ++ path ++ "': " ++ reason
  | .malformed path reason => "Failed to parse configuration '" ++ path ++ "': " ++ reason
  | .invalid field reason => "Invalid configuration: '" ++ field ++ "' " ++ reason

/-- The code of the error. -/
def code : SettingsError → Log.Code
  | .unreadable _ _ => .configurationUnreadable
  | .malformed _ _ => .configurationMalformed
  | .invalid _ _ => .invalidConfiguration

end SettingsError

/-- The identity of the grammar that two settings name. -/
def GrammarIdentity.ofNames (scope name : String) : Except SettingsError GrammarIdentity :=
  match ofNames? scope name with
  | some identity => .ok identity
  | none => .error (.invalid "grammar_name" "must not be empty")

namespace Settings

/-- The settings of an environment when nothing else is said. -/
def ofEnvironment (environment : Environment) : Settings where
  startRule := ""
  grammar := ""
  scope := ""
  encoding := "utf-8"
  skip := false
  fileSets := []
  logging := .ofEnvironment environment

/-- The settings with what the environment overrides: whether to skip, and the encoding unless it
is blank. -/
def override (settings : Settings) (environment : Environment) : Settings :=
  let encoding? := (environment.get? "INFALLIBLE_ENCODING").filter (!Text.isAllBlank ·)
  { settings with
    skip := (environment.flag? "INFALLIBLE_SKIP").getD settings.skip
    encoding := encoding?.getD settings.encoding }

/-- The identity of the grammar that is tested. -/
def identity (settings : Settings) : Except SettingsError GrammarIdentity :=
  GrammarIdentity.ofNames settings.scope settings.grammar

/-- The settings make sense. -/
def validate (settings : Settings) : Except SettingsError Unit := do
  if Text.isAllBlank settings.startRule then
    throw (.invalid "start_rule" "must not be empty")
  if Text.isAllBlank settings.encoding then
    throw (.invalid "encoding" "must not be empty")
  if settings.fileSets.any (·.includes.isEmpty) then
    throw (.invalid "fileset.includes" "must list at least one pattern")
  let _ ← settings.identity

end Settings

end Conformance
