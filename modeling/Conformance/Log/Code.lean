/-!
# Codes

Every event carries a code. The codes of failures are classified: what area they belong to, how
severe they are, whether work can go on, and what to do about them. A code without an entry counts
as a recoverable one of medium severity.
-/

namespace Conformance.Log

/-- How bad an error is. -/
inductive Severity where
  /-- The run cannot mean anything. -/
  | critical
  /-- The run cannot go on. -/
  | high
  /-- A finding of the run. -/
  | medium
  /-- A remark. -/
  | low
  deriving Repr, DecidableEq, Inhabited

/-- The name of a severity. -/
def Severity.name : Severity → String
  | .critical => "Critical"
  | .high => "High"
  | .medium => "Medium"
  | .low => "Low"

/-- The place of a severity, the worst one first. -/
def Severity.rank : Severity → Nat
  | .critical => 0
  | .high => 1
  | .medium => 2
  | .low => 3

/-- The code of an event. -/
structure Code where
  /-- The text of the code. -/
  text : String
  deriving Repr, DecidableEq, Inhabited

/-- What is known about the code of a failure. -/
structure Classification where
  /-- The code. -/
  code : Code
  /-- The area that it belongs to. -/
  category : String
  /-- How bad it is. -/
  severity : Severity
  /-- The work can go on. -/
  recoverable : Bool
  /-- The work has to stop. -/
  requiresHalt : Bool
  /-- What happened. -/
  description : String
  /-- What to do about it. -/
  action : String
  deriving Repr, DecidableEq, Inhabited

namespace Code

/-! ## The codes of failures -/

/-- An internal failure. -/
def internalError : Code := ⟨"ERR001"⟩
/-- The log could not be set up. -/
def initializationFailure : Code := ⟨"ERR002"⟩
/-- The settings are invalid. -/
def invalidConfiguration : Code := ⟨"E001"⟩
/-- The settings could not be read. -/
def configurationUnreadable : Code := ⟨"E002"⟩
/-- The settings could not be understood. -/
def configurationMalformed : Code := ⟨"E003"⟩
/-- The directory of a file set does not exist. -/
def directoryNotFound : Code := ⟨"E010"⟩
/-- A pattern of a file set is invalid. -/
def invalidPattern : Code := ⟨"E011"⟩
/-- A directory could not be walked. -/
def walkFailed : Code := ⟨"E012"⟩
/-- No symbol has the name. -/
def symbolNotFound : Code := ⟨"E020"⟩
/-- The symbol is of another capability. -/
def wrongCapability : Code := ⟨"E021"⟩
/-- The symbol has no fitting constructor. -/
def missingConstructor : Code := ⟨"E022"⟩
/-- A name was registered twice. -/
def duplicateSymbol : Code := ⟨"E023"⟩
/-- A source file does not exist. -/
def sourceNotFound : Code := ⟨"E030"⟩
/-- A source file could not be read. -/
def sourceUnreadable : Code := ⟨"E031"⟩
/-- The encoding is unknown. -/
def unsupportedEncoding : Code := ⟨"E032"⟩
/-- A source file is malformed in its encoding. -/
def malformedSource : Code := ⟨"E033"⟩
/-- A source file is too large. -/
def sourceTooLarge : Code := ⟨"E034"⟩
/-- A lexer could not be built. -/
def lexerConstruction : Code := ⟨"E040"⟩
/-- A parser could not be built. -/
def parserConstruction : Code := ⟨"E041"⟩
/-- The parser has no such entry point. -/
def noSuchRule : Code := ⟨"E050"⟩
/-- The rule is not public. -/
def ruleInaccessible : Code := ⟨"E051"⟩
/-- A rule failed for a reason of its own. -/
def unexpectedFailure : Code := ⟨"E052"⟩
/-- A rule broke off. -/
def ruleCrashed : Code := ⟨"E053"⟩
/-- A source was rejected. -/
def sourceRejected : Code := ⟨"E060"⟩
/-- An error was reported while recovering. -/
def syntaxErrorReported : Code := ⟨"E061"⟩

/-! ## The codes of achievements -/

/-- The log has been set up. -/
def systemInitialized : Code := ⟨"I001"⟩
/-- The settings have been loaded. -/
def configurationLoaded : Code := ⟨"I002"⟩
/-- The sources have been found. -/
def discoveryCompleted : Code := ⟨"I010"⟩
/-- A symbol has been found. -/
def symbolResolved : Code := ⟨"I020"⟩
/-- A parser has been built. -/
def pipelineBuilt : Code := ⟨"I030"⟩
/-- A source was accepted. -/
def sourceAccepted : Code := ⟨"I040"⟩
/-- A run has come to its end. -/
def runCompleted : Code := ⟨"I050"⟩

/-! ## The codes of other events -/

/-- Any warning. -/
def warning : Code := ⟨"W000"⟩
/-- Any information. -/
def info : Code := ⟨"I000"⟩
/-- Any detail. -/
def debug : Code := ⟨"D000"⟩

/-! ## Classification -/

/-- A failure that ends the work. -/
def fatal (code : Code) (category : String) (severity : Severity)
    (description action : String) : Classification :=
  ⟨code, category, severity, false, true, description, action⟩

/-- A finding after which the work goes on. -/
def finding (code : Code) (category : String) (severity : Severity)
    (description action : String) : Classification :=
  ⟨code, category, severity, true, false, description, action⟩

/-- The classified codes. -/
def classifications : List Classification := [
  fatal internalError "System" .critical
    "Critical internal harness error"
    "File a bug report with the failing configuration",
  fatal initializationFailure "System" .critical
    "Harness initialization failure"
    "Check logging configuration and environment overrides",
  fatal invalidConfiguration "Configuration" .high
    "Harness configuration is invalid"
    "Set start_rule and grammar_name to non-empty values",
  fatal configurationUnreadable "Configuration" .high
    "Configuration file could not be read"
    "Check the configuration path and its permissions",
  fatal configurationMalformed "Configuration" .high
    "Configuration file is not valid TOML for the harness"
    "Fix the reported key or value in the configuration file",
  fatal directoryNotFound "Discovery" .high
    "File set directory does not exist"
    "Point the file set at an existing directory",
  fatal invalidPattern "Discovery" .high
    "Include or exclude pattern is not a valid glob"
    "Fix the glob syntax of the file set pattern",
  fatal walkFailed "Discovery" .high
    "Directory traversal failed"
    "Check directory permissions below the file set root",
  fatal symbolNotFound "Resolution" .critical
    "Generated lexer or parser symbol not found"
    "Check grammar name and namespace, and that the grammar is registered",
  fatal wrongCapability "Resolution" .critical
    "Symbol does not provide the required lexer or parser capability"
    "Check that the grammar name resolves to the generated types",
  fatal missingConstructor "Resolution" .critical
    "Symbol lacks the expected constructor"
    "Regenerate the grammar so it registers a stream constructor",
  fatal duplicateSymbol "Resolution" .high
    "Symbol registered twice"
    "Register each generated type exactly once",
  fatal sourceNotFound "SourceRead" .high
    "Source file not found"
    "Check the file set configuration",
  fatal sourceUnreadable "SourceRead" .high
    "Source file could not be read"
    "Check file permissions",
  fatal unsupportedEncoding "SourceRead" .high
    "Configured encoding is not supported"
    "Use a WHATWG encoding label such as utf-8",
  fatal malformedSource "SourceRead" .high
    "Source bytes are invalid in the configured encoding"
    "Fix the file encoding or the configured encoding",
  fatal sourceTooLarge "SourceRead" .high
    "Source file exceeds the maximum size"
    "Split the source file or exclude it from the file set",
  fatal lexerConstruction "Construction" .critical
    "Generated lexer could not be constructed"
    "Regenerate the grammar against the current runtime",
  fatal parserConstruction "Construction" .critical
    "Generated parser could not be constructed"
    "Regenerate the grammar against the current runtime",
  fatal noSuchRule "Invocation" .critical
    "Parser has no zero-argument rule with the configured name"
    "Check the start_rule setting against the grammar's rules",
  fatal ruleInaccessible "Invocation" .critical
    "Configured start rule is not publicly accessible"
    "Choose a public entry rule",
  fatal unexpectedFailure "Invocation" .critical
    "Start rule failed with something other than a rejection"
    "Inspect the generated parser for runtime errors",
  fatal ruleCrashed "Invocation" .critical
    "Start rule panicked"
    "Inspect the generated parser for runtime errors",
  finding sourceRejected "Conformance" .medium
    "Source rejected by the grammar"
    "Fix the source or the grammar",
  finding syntaxErrorReported "Conformance" .low
    "Syntax error reported during recovering parse"
    "Review the reported position"]

/-- The classification of a code. -/
def classification? (code : Code) : Option Classification :=
  classifications.find? fun entry => entry.code == code

/-- How bad a code is. -/
def severity (code : Code) : Severity :=
  (code.classification?.map Classification.severity).getD .medium

/-- The work can go on after a code. -/
def recoverable (code : Code) : Bool :=
  (code.classification?.map Classification.recoverable).getD true

/-- The work has to stop after a code. -/
def requiresHalt (code : Code) : Bool :=
  (code.classification?.map Classification.requiresHalt).getD false

/-- What a code means. -/
def description? (code : Code) : Option String :=
  code.classification?.map Classification.description

/-- What to do about a code. -/
def action? (code : Code) : Option String :=
  code.classification?.map Classification.action

/-- The meaning of a code, also of an unknown one. -/
def description (code : Code) : String :=
  code.description?.getD "Unknown error"

/-- The advice for a code, also for an unknown one. -/
def action (code : Code) : String :=
  code.action?.getD "No specific action available"

/-- The area of a code, also of an unknown one. -/
def category (code : Code) : String :=
  (code.classification?.map Classification.category).getD "Unknown"

end Code

end Conformance.Log
