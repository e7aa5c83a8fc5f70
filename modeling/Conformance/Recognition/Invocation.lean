import Conformance.Log.Journal
import Conformance.Recognition.Parser
import Conformance.Report.Result

/-!
# Invoking a start rule

A start rule is called once on a fresh parser. It has to be a public entry point of the parser's
rule table. A rule that was cancelled has rejected its source, which is a result; any other failure
is an error. The source is the current file of the journal while its rule runs.
-/

namespace Conformance

/-- Why a start rule gave no result. -/
inductive InvocationError where
  /-- There is no entry point of the name. -/
  | noSuchRule (rule detail : String)
  /-- The entry point is not public. -/
  | inaccessible (rule : String)
  /-- The rule failed for a reason of its own. -/
  | unexpectedFailure (rule message : String)
  /-- The rule broke off. -/
  | crashed (rule message : String)
  deriving Repr, DecidableEq, Inhabited

namespace InvocationError

/-- The rule that was called. -/
def rule : InvocationError → String
  | .noSuchRule rule _ => rule
  | .inaccessible rule => rule
  | .unexpectedFailure rule _ => rule
  | .crashed rule _ => rule

/-- The text of the error. -/
def message : InvocationError → String
  | .noSuchRule rule detail => "Parser has no rule named '" ++ rule ++ "' (" ++ detail ++ ")"
  | .inaccessible rule => "Can not access rule '" ++ rule ++ "' on parser (rule is not public)"
  | .unexpectedFailure rule message =>
    "Can not invoke rule '" ++ rule ++ "' on parser (" ++ message ++ ")"
  | .crashed rule message => "Rule '" ++ rule ++ "' panicked (" ++ message ++ ")"

/-- The code of the error. -/
def code : InvocationError → Log.Code
  | .noSuchRule _ _ => .noSuchRule
  | .inaccessible _ => .ruleInaccessible
  | .unexpectedFailure _ _ => .unexpectedFailure
  | .crashed _ _ => .ruleCrashed

end InvocationError

/-- A rule may be called if the first entry point of its name is public. -/
def RuleEntry.admit (table : List RuleEntry) (rule : String) : Except InvocationError Unit :=
  let candidates := table.filter fun entry => entry.name == rule
  match candidates.find? RuleEntry.isEntryPoint, candidates with
  | some entry, _ => if entry.isPublic then .ok () else .error (.inaccessible rule)
  | none, [] => .error (.noSuchRule rule "no such rule")
  | none, entry :: _ =>
    .error (.noSuchRule rule
      ("only declared with " ++ toString entry.arity ++ " argument(s)"))

namespace Parser

/-- Enter an error of an invocation into the journal and fail with it. -/
def refuse {α : Type} (error : InvocationError) (context : List (String × String)) :
    Log.Attempt InvocationError α := do
  Log.emit (.error error.code error.message) context
  throw error

/-- Call the start rule, the source being the current file, and say what became of the source. -/
def call (parser : Parser) (rule : String) : Log.Attempt InvocationError SourceResult := do
  let context := [("rule", rule)]
  match RuleEntry.admit parser.table rule with
  | .error error => refuse error context
  | .ok () =>
    match (parser.invoke rule).1 with
    | .ok () =>
      Log.emit (.success .sourceAccepted "Source accepted") context
      return .accepted parser.sourceName
    | .error (.cancelled cause) =>
      Log.emit (.error .sourceRejected cause.message) context
      return .rejected parser.sourceName cause
    | .error (.internal message) => refuse (.unexpectedFailure rule message) []
    | .error (.crashed crash) => refuse (.crashed rule crash.text) []

/-- Call the start rule once and say what became of the source. -/
def test (parser : Parser) (rule : String) : Log.Attempt InvocationError SourceResult :=
  ExceptT.mk (Log.withFile parser.sourceName (parser.call rule).run)

end Parser

end Conformance
