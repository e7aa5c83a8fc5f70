import Conformance.Grammar.Basic
import Conformance.Grammar.Snafu.Lexical

/-!
# The rules of Snafu

```text
startRule : statement* EOF ;
statement : 'let' ID '=' expr ';'
          | 'print' expr ';'
          ;
expr      : expr ('*' | '/') expr
          | expr ('+' | '-') expr
          | factor
          ;
factor    : INT | ID | STRING | '(' expr ')' | '-' factor ;
```

Expressions are read by precedence climbing: after a factor, each operator of at least the demanded
precedence is followed by an expression of the next higher one. Factors nest to a fixed depth; a
factor that is due deeper fails. Every rule takes a number of steps that bounds its recursion; a
bound made from the outstanding input is never used up.
-/

namespace Conformance.Snafu

open Recognizer

/-- The deepest nesting of factors. -/
def maxDepth : Nat := 256

/-- The kinds that start a statement. -/
def statementStart : List Kind := [letKind, printKind]

/-- The kinds on which the start rule resumes. -/
def statementFollow : List Kind := [letKind, printKind, .eof]

/-- The kinds that start a factor. -/
def factorStart : List Kind := [numberKind, nameKind, stringKind, openKind, minusKind]

/-- The kinds on which an expression resumes. -/
def factorFollow : List Kind :=
  [semicolonKind, closeKind, plusKind, minusKind, starKind, slashKind]

/-- The precedence of an operator. -/
def precedence? (kind : Kind) : Option Nat :=
  if kind = plusKind ∨ kind = minusKind then some 1
  else if kind = starKind ∨ kind = slashKind then some 2
  else none

/-- The failure of a factor that would open one nesting too many on a line. -/
def tooDeep (line : Nat) : RuleFailure :=
  .internal
    ("maximum nesting depth " ++ toString maxDepth ++ " exceeded at line " ++ toString line)

/-- What a rule answers when its bound on steps is used up. -/
def outOfSteps : Rule Unit := fun recognizer =>
  .error (.internal "rule did not finish") recognizer

/-- Open a factor around a rule, unless too many are open. -/
def nestFactor (body : Rule Unit) : Rule Unit := do
  if maxDepth ≤ (← get).depth then
    let token ← lookahead 1
    throw (tooDeep token.position.line)
  else
    nested body

mutual

/-- An expression whose operators outside of nested factors have at least a precedence. -/
def expression (least : Nat) : Nat → Rule Unit
  | 0 => outOfSteps
  | steps + 1 => do
    factor steps
    operations least steps

/-- The operators of at least a precedence that follow a factor, with their right operands. -/
def operations (least : Nat) : Nat → Rule Unit
  | 0 => outOfSteps
  | steps + 1 => do
    match precedence? (← peek) with
    | none => pure ()
    | some precedence =>
      if precedence < least then pure ()
      else
        let _ ← consume
        expression (precedence + 1) steps
        operations least steps

/-- A factor. -/
def factor : Nat → Rule Unit
  | 0 => outOfSteps
  | steps + 1 => nestFactor do
    let kind ← peek
    if kind = numberKind ∨ kind = nameKind ∨ kind = stringKind then
      let _ ← consume
    else if kind = openKind then
      let _ ← consume
      expression 0 steps
      let _ ← matchKind closeKind
    else if kind = minusKind then
      let _ ← consume
      factor steps
    else
      noViableAlternative factorStart factorFollow

end

/-- A statement. -/
def statement (steps : Nat) : Rule Unit := do
  let kind ← peek
  if kind = letKind then
    let _ ← matchKind letKind
    let _ ← matchKind nameKind
    let _ ← matchKind assignKind
    expression 0 steps
    let _ ← matchKind semicolonKind
  else if kind = printKind then
    let _ ← matchKind printKind
    expression 0 steps
    let _ ← matchKind semicolonKind
  else
    noViableAlternative statementStart statementFollow

/-- Statements up to the end of the input, at most as many as `turns`. -/
def statements (steps : Nat) : Nat → Rule Unit
  | 0 => outOfSteps
  | turns + 1 => do
    let kind ← peek
    if kind ∈ statementStart then
      statement steps
      statements steps turns
    else if kind = .eof then pure ()
    else
      noViableAlternative (statementStart ++ [.eof]) statementFollow
      statements steps turns

/-- A bound on the steps of a rule from the input that is outstanding. -/
def bound : Rule Nat := do
  return 2 * (← get).outstanding + 4

/-- A whole program. -/
def startRule : Rule Unit := do
  let steps ← bound
  statements steps steps
  let _ ← matchKind .eof

/-- The rule of a name. -/
def rule (name : String) : Rule Unit :=
  match name with
  | "startRule" => startRule
  | "statement" => do statement (← bound)
  | "expr" => do expression 0 (← bound)
  | "factor" => do factor (← bound)
  | other => throw (.internal ("SnafuParser has no rule '" ++ other ++ "'"))

/-- The description of the rules. The expression of a demanded precedence is for the parser's own
use. -/
def table : List RuleEntry :=
  [⟨"startRule", .everyone, 0⟩, ⟨"statement", .everyone, 0⟩, ⟨"expr", .everyone, 0⟩,
    ⟨"expr", .internal, 1⟩, ⟨"factor", .everyone, 0⟩]

/-- The Snafu language. -/
def grammar : Grammar := ⟨lexical, vocabulary, table, rule⟩

end Conformance.Snafu
