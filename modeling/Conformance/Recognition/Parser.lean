import Conformance.Recognition.Recognizer
import Conformance.Text.Quoted

/-!
# Parsers

A parser offers named rules over one input. Its rule table describes them: who may call a rule and
with how many arguments. A rule without arguments is an entry point. Calling a rule by name keeps
the state of the parser, so a further call goes on where the last one stopped.
-/

namespace Conformance

/-- Who may call a rule. -/
inductive Visibility where
  /-- Anyone. -/
  | everyone
  /-- The parser's own rules. -/
  | internal
  deriving Repr, DecidableEq, Inhabited

/-- The description of one rule. -/
structure RuleEntry where
  /-- The name of the rule. -/
  name : String
  /-- Who may call it. -/
  visibility : Visibility
  /-- The number of its arguments. -/
  arity : Nat
  deriving Repr, DecidableEq, Inhabited

/-- A rule without arguments. -/
def RuleEntry.isEntryPoint (entry : RuleEntry) : Bool :=
  entry.arity == 0

/-- The rule may be called by anyone. -/
def RuleEntry.isPublic (entry : RuleEntry) : Bool :=
  entry.visibility == .everyone

/-- Named rules over one input. -/
structure Parser where
  /-- The description of the rules. -/
  table : List RuleEntry
  /-- The rule of a name. -/
  rule : String → Rule Unit
  /-- The state between calls. -/
  state : Recognizer

namespace Parser

/-- The name of the source that the parser reads. -/
def sourceName (parser : Parser) : String :=
  parser.state.input.source.name

/-- A description of the parser for diagnostics. -/
def summary (parser : Parser) : String :=
  "ParserHandle \x7b source_name: " ++ Text.quoted parser.sourceName ++ ", .. \x7d"

/-- The parser with another error strategy; the errors of the former one are gone. -/
def withStrategy (parser : Parser) (strategy : Strategy) : Parser :=
  { parser with state := { parser.state with strategy } }

/-- The errors that the installed strategy has reported. -/
def errors (parser : Parser) : Array RecognitionError :=
  parser.state.strategy.reported

/-- Call a rule by its name. -/
def invoke (parser : Parser) (name : String) : Except RuleFailure Unit × Parser :=
  match parser.rule name parser.state with
  | .ok _ state => (.ok (), { parser with state })
  | .error failure state => (.error failure, { parser with state })

end Parser

end Conformance
