import Conformance.Log.Event
import Conformance.Settings.Environment

/-!
# Preferences of a log

The preferences name the least level that is shown and say whether events are written as JSON
records. What they do not say is taken from the environment. A level name that means nothing
counts as the level of information.
-/

namespace Conformance.Log

/-- What a log shows and how. -/
structure Preferences where
  /-- The name of the least level that is shown. -/
  level : String
  /-- Events are written as JSON records. -/
  structured : Bool
  deriving Repr, DecidableEq, Inhabited

namespace Preferences

/-- The preferences of an environment. -/
def ofEnvironment (environment : Environment) : Preferences where
  level := (environment.get? "INFALLIBLE_LOG_LEVEL").getD "info"
  structured := (environment.flag? "INFALLIBLE_LOG_STRUCTURED").getD false

/-- The least level that is shown. -/
def least (preferences : Preferences) : Level :=
  (Level.ofText? preferences.level).getD .info

/-- A description of the preferences. -/
def summary (preferences : Preferences) : String :=
  "Logging configuration:\n  Minimum level: " ++ preferences.least.name ++
    "\n  Structured output: " ++ toString preferences.structured

/-- A description of a log that is in use with a least level, or is not in use yet. -/
def diagnostics (preferences : Preferences) (active : Option Level) : String :=
  "=== Logging System Diagnostics ===\nInitialized: " ++ toString active.isSome ++ "\n" ++
    ((active.map fun level => "Active level: " ++ level.name ++ "\n").getD "") ++ "\n" ++
    preferences.summary

end Preferences

end Conformance.Log
