import Conformance.Report.Format

/-!
# Command lines

A command line gives settings, each with a value, and turns switches on. A setting for which one
value makes sense is given at most once, and so is a switch; patterns may be given repeatedly.
-/

namespace Conformance

/-- An option that takes a value. -/
inductive Setting where
  /-- The settings file. -/
  | config
  /-- The start rule. -/
  | startRule
  /-- The name of the grammar. -/
  | grammar
  /-- The namespace of the grammar. -/
  | scope
  /-- The encoding of the sources. -/
  | encoding
  /-- A directory of sources. -/
  | directory
  /-- A pattern of files that belong to the directory's sources. -/
  | included
  /-- A pattern of files that do not. -/
  | excluded
  /-- The format of the report. -/
  | format
  /-- The least level that the log shows. -/
  | logLevel
  deriving Repr, DecidableEq, Inhabited

/-- An option that stands alone. -/
inductive Switch where
  /-- Test nothing. -/
  | skip
  /-- Write the log as JSON records. -/
  | structuredLogs
  /-- List the symbols. -/
  | listSymbols
  /-- Explain the command line. -/
  | help
  /-- Tell the version. -/
  | version
  deriving Repr, DecidableEq, Inhabited

/-- The name of a setting. -/
def Setting.name : Setting → String
  | .config => "config"
  | .startRule => "start-rule"
  | .grammar => "grammar"
  | .scope => "namespace"
  | .encoding => "encoding"
  | .directory => "dir"
  | .included => "include"
  | .excluded => "exclude"
  | .format => "format"
  | .logLevel => "log-level"

/-- The name of a switch. -/
def Switch.name : Switch → String
  | .skip => "skip"
  | .structuredLogs => "structured-logs"
  | .listSymbols => "list-symbols"
  | .help => "help"
  | .version => "version"

/-- All settings. -/
def Setting.all : List Setting :=
  [.config, .startRule, .grammar, .scope, .encoding, .directory, .included, .excluded, .format,
    .logLevel]

/-- All switches. -/
def Switch.all : List Switch :=
  [.skip, .structuredLogs, .listSymbols, .help, .version]

/-- An option of either kind. -/
inductive CommandOption where
  /-- It takes a value. -/
  | setting (setting : Setting)
  /-- It stands alone. -/
  | switch (switch : Switch)
  deriving Repr, DecidableEq, Inhabited

namespace CommandOption

/-- The name of an option. -/
def name : CommandOption → String
  | .setting valued => valued.name
  | .switch bare => bare.name

/-- All options. -/
def all : List CommandOption :=
  Setting.all.map .setting ++ Switch.all.map .switch

/-- The option of a name. -/
def ofName? (name : String) : Option CommandOption :=
  all.find? fun option => option.name == name

/-- The option of a letter. -/
def ofLetter? : Char → Option CommandOption
  | 'c' => some (.setting .config)
  | 'h' => some (.switch .help)
  | 'V' => some (.switch .version)
  | _ => none

end CommandOption

/-- Why a command line is not carried out. -/
inductive Refusal where
  /-- It asks for an explanation. -/
  | helpWanted
  /-- It asks for the version. -/
  | versionWanted
  /-- A word of it means nothing. -/
  | unknownWord (word : String)
  /-- A setting has no value. -/
  | missingValue (setting : Setting)
  /-- A setting has an empty value. -/
  | emptyValue (setting : Setting)
  /-- A switch has a value. -/
  | unneededValue (switch : Switch)
  /-- An option is given again. -/
  | repeated (option : CommandOption)
  /-- The format of the report is unknown. -/
  | unknownFormat (reason : String)
  deriving Repr, DecidableEq, Inhabited

/-- What a command line asks for. -/
structure CommandLine where
  /-- The settings file. -/
  config : Option String
  /-- The start rule. -/
  startRule : Option String
  /-- The name of the grammar. -/
  grammar : Option String
  /-- The namespace of the grammar. -/
  scope : Option String
  /-- The encoding of the sources. -/
  encoding : Option String
  /-- Nothing is tested. -/
  skip : Bool
  /-- A further directory of sources. -/
  directory : Option String
  /-- The patterns of files that belong to it. -/
  includes : List String
  /-- The patterns of files that do not. -/
  excludes : List String
  /-- The format of the report. -/
  format : Option ReportFormat
  /-- The least level that the log shows. -/
  logLevel : Option String
  /-- The log is written as JSON records. -/
  structuredLogs : Bool
  /-- The symbols are listed. -/
  listSymbols : Bool
  deriving Repr, DecidableEq, Inhabited

namespace CommandLine

/-- The command line without any words. -/
def empty : CommandLine where
  config := none
  startRule := none
  grammar := none
  scope := none
  encoding := none
  skip := false
  directory := none
  includes := []
  excludes := []
  format := none
  logLevel := none
  structuredLogs := false
  listSymbols := false

/-- The format of the report; a text unless another one is asked for. -/
def reportFormat (line : CommandLine) : ReportFormat :=
  line.format.getD .text

/-- A setting that is given once. -/
def once {α : Type} (setting : Setting) (former : Option α) (value : Except Refusal α) :
    Except Refusal (Option α) :=
  match former with
  | some _ => .error (.repeated (.setting setting))
  | none => value.map some

/-- A path, which has to have some text. -/
def path (setting : Setting) (value : String) : Except Refusal String :=
  if value.isEmpty then .error (.emptyValue setting) else .ok value

/-- Give a setting its value. -/
def give (line : CommandLine) (setting : Setting) (value : String) :
    Except Refusal CommandLine := do
  match setting with
  | .config => return { line with config := ← once setting line.config (path setting value) }
  | .startRule => return { line with startRule := ← once setting line.startRule (.ok value) }
  | .grammar => return { line with grammar := ← once setting line.grammar (.ok value) }
  | .scope => return { line with scope := ← once setting line.scope (.ok value) }
  | .encoding => return { line with encoding := ← once setting line.encoding (.ok value) }
  | .directory =>
    return { line with directory := ← once setting line.directory (path setting value) }
  | .included => return { line with includes := line.includes ++ [value] }
  | .excluded => return { line with excludes := line.excludes ++ [value] }
  | .format =>
    let format := (ReportFormat.ofText value).mapError Refusal.unknownFormat
    return { line with format := ← once setting line.format format }
  | .logLevel => return { line with logLevel := ← once setting line.logLevel (.ok value) }

/-- Turn a switch on. -/
def turnOn (line : CommandLine) (switch : Switch) : Except Refusal CommandLine :=
  let again : Except Refusal CommandLine := .error (.repeated (.switch switch))
  match switch with
  | .skip => if line.skip then again else .ok { line with skip := true }
  | .structuredLogs =>
    if line.structuredLogs then again else .ok { line with structuredLogs := true }
  | .listSymbols => if line.listSymbols then again else .ok { line with listSymbols := true }
  | .help => .error .helpWanted
  | .version => .error .versionWanted

end CommandLine

end Conformance
