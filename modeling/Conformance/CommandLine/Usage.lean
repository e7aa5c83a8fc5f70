import Conformance.CommandLine.Basic

/-!
# Usage

What is said in place of carrying out a command line. Who asks for an explanation or for the version
gets it as an answer; a faulty command line is an error.
-/

namespace Conformance

/-- The explanation of a setting. -/
def Setting.explanation : Setting → String
  | .config => "TOML configuration file; other flags override its values"
  | .startRule => "Parser rule every source file is parsed from"
  | .grammar => "Grammar name the lexer and parser symbols derive from"
  | .scope => "Namespace prefix of the generated symbols"
  | .encoding => "Encoding label used to decode source files"
  | .directory => "Extra directory of sources to test"
  | .included => "Include pattern for --dir (repeatable)"
  | .excluded => "Exclude pattern for --dir (repeatable)"
  | .format => "Report format: text or json"
  | .logLevel => "Minimum log level (error, warn, info, debug)"

/-- The explanation of a switch. -/
def Switch.explanation : Switch → String
  | .skip => "Skip the run entirely"
  | .structuredLogs => "Emit log events as JSON lines"
  | .listSymbols => "Print the registered symbols and exit"
  | .help => "Print help"
  | .version => "Print version"

/-- The explanation of an option. -/
def CommandOption.explanation : CommandOption → String
  | .setting valued => valued.explanation
  | .switch bare => bare.explanation

/-- The line of an option in the explanation of the command line. -/
def CommandOption.usage (option : CommandOption) : String :=
  let value :=
    match option with
    | .setting _ => " <VALUE>"
    | .switch _ => ""
  "  --" ++ option.name ++ value ++ "\n          " ++ option.explanation

/-- The explanation of the command line. -/
def CommandLine.usage : String :=
  "Grammar conformance runner\n\nUsage: infallible [OPTIONS]\n\nOptions:\n" ++
    "\n".intercalate (CommandOption.all.map CommandOption.usage)

namespace Refusal

/-- What is said about a command line that is not carried out. -/
def text : Refusal → String
  | .helpWanted => CommandLine.usage
  | .versionWanted => "infallible 0.1.0"
  | .unknownWord word => "error: unexpected argument '" ++ word ++ "' found"
  | .missingValue setting => "error: a value is required for '--" ++ setting.name ++ "'"
  | .emptyValue setting => "error: a value is required for '--" ++ setting.name ++ "'"
  | .unneededValue switch => "error: no value is expected for '--" ++ switch.name ++ "'"
  | .repeated option => "error: '--" ++ option.name ++ "' cannot be used multiple times"
  | .unknownFormat reason => "error: invalid value for '--format': " ++ reason

/-- The command line asked for an answer. -/
def isAnswer : Refusal → Bool
  | .helpWanted => true
  | .versionWanted => true
  | _ => false

/-- The exit status of a command line that is not carried out. -/
def status (refusal : Refusal) : Nat :=
  if refusal.isAnswer then 0 else 2

end Refusal

end Conformance
