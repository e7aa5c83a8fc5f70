import Conformance.Files.Tree
import Conformance.Log.Journal
import Conformance.Settings.Document

/-!
# Settings in a file

A settings file holds a TOML document in UTF-8. What it says can be overridden by the environment.
Reading leaves the check of the settings to the caller, who may want to change some first; loading
checks them and enters the success into the journal.
-/

namespace Conformance.Settings

/-- The settings of a file in an environment. -/
def read (environment : Environment) (tree : FileTree) (path : String) :
    Except SettingsError Settings :=
  match tree.read path with
  | .error reason => .error (.unreadable path reason.message)
  | .ok bytes =>
    match String.fromUTF8? bytes with
    | none => .error (.unreadable path "stream did not contain valid UTF-8")
    | some document =>
      (ofDocument environment document path).map fun settings => settings.override environment

/-- The checked settings of a file in an environment. -/
def load (environment : Environment) (tree : FileTree) (path : String) :
    Log.Attempt SettingsError Settings := do
  let settings ← Log.attempt (read environment tree path)
  Log.attempt settings.validate
  Log.emit (.success .configurationLoaded "Configuration loaded")
    [("path", path), ("grammar", settings.grammar), ("start_rule", settings.startRule)]
  return settings

end Conformance.Settings
