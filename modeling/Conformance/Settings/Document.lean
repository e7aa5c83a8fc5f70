import Conformance.Settings.Basic
import Conformance.Toml.Document

/-!
# Settings in a TOML document

A document may hold any of the settings; those that it leaves out come from the environment. A key
that is no setting is an error, except in the table of the log, where it is ignored. A file set
and the table of the log may also be written as lists, their parts in order.
-/

namespace Conformance

/-- The settings could not be taken from a document for a stated reason. -/
abbrev Decoded := Except String

namespace Settings

/-- A setting that has to be a text. -/
def decodeText (field : String) : Toml.Value → Decoded String
  | .text value => .ok value
  | _ => .error ("'" ++ field ++ "' is not a text")

/-- A setting that has to be a flag. -/
def decodeFlag (field : String) : Toml.Value → Decoded Bool
  | .flag value => .ok value
  | _ => .error ("'" ++ field ++ "' is not a flag")

/-- A setting that has to be a list of texts. -/
def decodeTexts (field : String) : Toml.Value → Decoded (List String)
  | .list items => items.mapM (decodeText field)
  | _ => .error ("'" ++ field ++ "' is not a list of texts")

/-- One setting of a file set. -/
def decodeFileSetField (set : FileSet) (field : String) (value : Toml.Value) : Decoded FileSet :=
  match field with
  | "directory" => do return { set with directory := ← decodeText field value }
  | "includes" => do return { set with includes := ← decodeTexts field value }
  | "excludes" => do return { set with excludes := ← decodeTexts field value }
  | _ => .error ("unknown setting '" ++ field ++ "' of a file set")

/-- A file set from the entries of a table; the directory has to be among them. -/
def decodeFileSetEntries (entries : Toml.Entries) : Decoded FileSet := do
  let set ← entries.foldlM (fun set (field, value) => decodeFileSetField set field value)
    (FileSet.ofDirectory "")
  if (entries.lookup "directory").isNone then throw "a file set without 'directory'"
  return set

/-- A file set. -/
def decodeFileSet : Toml.Value → Decoded FileSet
  | .table _ entries => decodeFileSetEntries entries
  | .braces _ entries => decodeFileSetEntries entries
  | .list items => decodeFileSetEntries (["directory", "includes", "excludes"].zip items)
  | _ => .error "a file set is neither a table nor a list"

/-- The file sets. -/
def decodeFileSets : Toml.Value → Decoded (List FileSet)
  | .list items => items.mapM decodeFileSet
  | .tables items => items.mapM decodeFileSetEntries
  | _ => .error "'fileset' is not a list"

/-- One setting of the log. -/
def decodeLoggingField (logging : Log.Preferences) (field : String) (value : Toml.Value) :
    Decoded Log.Preferences :=
  match field with
  | "level" => do return { logging with level := ← decodeText field value }
  | "structured" => do return { logging with structured := ← decodeFlag field value }
  | _ => .ok logging

/-- The settings of the log, over those that hold without the document. A moment says nothing about
the log. -/
def decodeLogging (logging : Log.Preferences) (value : Toml.Value) : Decoded Log.Preferences :=
  let decode (entries : Toml.Entries) : Decoded Log.Preferences :=
    entries.foldlM (fun logging (field, value) => decodeLoggingField logging field value) logging
  match value with
  | .table _ entries => decode entries
  | .braces _ entries => decode entries
  | .list items => decode (["level", "structured"].zip items)
  | .moment _ => .ok logging
  | _ => .error "'logging' is not a table"

/-- One setting. -/
def decodeField (settings : Settings) (field : String) (value : Toml.Value) : Decoded Settings :=
  match field with
  | "start_rule" => do return { settings with startRule := ← decodeText field value }
  | "grammar_name" => do return { settings with grammar := ← decodeText field value }
  | "namespace" => do return { settings with scope := ← decodeText field value }
  | "encoding" => do return { settings with encoding := ← decodeText field value }
  | "skip" => do return { settings with skip := ← decodeFlag field value }
  | "fileset" => do return { settings with fileSets := ← decodeFileSets value }
  | "logging" => do return { settings with logging := ← decodeLogging settings.logging value }
  | _ => .error ("unknown setting '" ++ field ++ "'")

/-- The settings that the entries of a document give in an environment. -/
def decode (environment : Environment) (entries : Toml.Entries) : Decoded Settings :=
  entries.foldlM (fun settings (field, value) => decodeField settings field value)
    (ofEnvironment environment)

/-- The settings of a document; `origin` is where it comes from. -/
def ofDocument (environment : Environment) (document origin : String) :
    Except SettingsError Settings :=
  match Toml.parse? document with
  | none => .error (.malformed origin "not a TOML document")
  | some entries =>
    match decode environment entries with
    | .ok settings => .ok settings
    | .error reason => .error (.malformed origin reason)

end Settings

end Conformance
