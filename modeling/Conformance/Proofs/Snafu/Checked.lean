import Conformance.Proofs.Recognition.Checked
import Conformance.Grammar.Snafu.Rules

/-!
# The rules of Snafu with checked steps

The rules of Snafu once more, with steps that break a rule off where a number is out of range: a
token that has not been fetched, a construct to close where none is open, a precedence that does
not fit into a byte. A strict parser runs them as it runs the rules themselves.
-/

namespace Conformance.Snafu

open Rule

namespace Checked

open Recognizer.Checked

/-! ## The rules -/

/-- Open a factor around a rule, unless too many are open. -/
def nestFactor (body : Rule Unit) : Rule Unit := do
  if maxDepth ≤ (← get).depth then
    let token ← lookahead 1
    throw (tooDeep token.position.line)
  else
    nested body

mutual

/-- An expression whose operators outside of nested factors have at least a precedence. -/
def expression (least : Nat) : Nat → Rule Unit
  | 0 => outOfSteps
  | steps + 1 => do
    factor steps
    operations least steps

/-- The operators of at least a precedence that follow a factor, with their right operands. -/
def operations (least : Nat) : Nat → Rule Unit
  | 0 => outOfSteps
  | steps + 1 => do
    match precedence? (← peek) with
    | none => pure ()
    | some precedence =>
      if precedence < least then pure ()
      else
        let _ ← consume
        expression (← successor precedence) steps
        operations least steps

/-- A factor. -/
def factor : Nat → Rule Unit
  | 0 => outOfSteps
  | steps + 1 => nestFactor do
    let kind ← peek
    if kind = numberKind ∨ kind = nameKind ∨ kind = stringKind then
      let _ ← consume
    else if kind = openKind then
      let _ ← consume
      expression 0 steps
      let _ ← matchKind closeKind
    else if kind = minusKind then
      let _ ← consume
      factor steps
    else
      noViableAlternative factorStart factorFollow

end

/-- A statement. -/
def statement (steps : Nat) : Rule Unit := do
  let kind ← peek
  if kind = letKind then
    let _ ← matchKind letKind
    let _ ← matchKind nameKind
    let _ ← matchKind assignKind
    expression 0 steps
    let _ ← matchKind semicolonKind
  else if kind = printKind then
    let _ ← matchKind printKind
    expression 0 steps
    let _ ← matchKind semicolonKind
  else
    noViableAlternative statementStart statementFollow

/-- Statements up to the end of the input, at most as many as `turns`. -/
def statements (steps : Nat) : Nat → Rule Unit
  | 0 => outOfSteps
  | turns + 1 => do
    let kind ← peek
    if kind ∈ statementStart then
      statement steps
      statements steps turns
    else if kind = .eof then pure ()
    else
      noViableAlternative (statementStart ++ [.eof]) statementFollow
      statements steps turns

/-- A whole program. -/
def startRule : Rule Unit := do
  let steps ← bound
  statements steps steps
  let _ ← matchKind .eof

/-- The rule of a name. -/
def rule (name : String) : Rule Unit :=
  match name with
  | "startRule" => startRule
  | "statement" => do statement (← bound)
  | "expr" => do expression 0 (← bound)
  | "factor" => do factor (← bound)
  | other => throw (.internal ("SnafuParser has no rule '" ++ other ++ "'"))

end Checked

/-! ## Every step is in range -/

/-- A precedence has a successor. -/
theorem successor_lt_of_precedence? {kind : Kind} {precedence : Nat}
    (found : precedence? kind = some precedence) : precedence + 1 < UInt8.size := by
  unfold precedence? at found
  split at found
  · cases found
    decide
  · split at found
    · cases found
      decide
    · cases found

/-- Opening a factor around confirmed rules keeps them so. -/
theorem confirms_nestFactor {checked body : Rule Unit} (inner : Confirms checked body) :
    Confirms (Checked.nestFactor checked) (nestFactor body) :=
  Confirms.get_bind fun _ => Confirms.ite
    ((Confirms.lookahead 1).bind fun token => Confirms.throw (tooDeep token.position.line))
    inner.nested

/-- The checked rules of expressions confirm the rules of expressions under any bound on their
steps. -/
theorem confirms_expression (steps : Nat) :
    (∀ least, Confirms (Checked.expression least steps) (expression least steps)) ∧
      (∀ least, Confirms (Checked.operations least steps) (operations least steps)) ∧
      Confirms (Checked.factor steps) (factor steps) := by
  induction steps with
  | zero =>
    have none : Confirms outOfSteps outOfSteps := Confirms.throw _
    exact ⟨fun _ => none, fun _ => none, none⟩
  | succ steps ih =>
    obtain ⟨expressionStep, operationsStep, factorStep⟩ := ih
    refine ⟨fun least => ?_, fun least => ?_, ?_⟩
    · exact factorStep.bind fun _ => operationsStep least
    · refine Confirms.peek.bind fun kind => ?_
      cases found : precedence? kind with
      | none => exact Confirms.pure ()
      | some precedence =>
        refine Confirms.ite (Confirms.pure ()) (Confirms.consume.bind fun _ => ?_)
        refine Confirms.successor_bind (successor_lt_of_precedence? found) ?_
        exact (expressionStep (precedence + 1)).bind fun _ => operationsStep least
    · refine confirms_nestFactor (Confirms.peek.bind fun kind => ?_)
      refine Confirms.ite (Confirms.consume.bind fun _ => Confirms.pure ()) ?_
      refine Confirms.ite ?_ (Confirms.ite ?_ ?_)
      · refine Confirms.consume.bind fun _ => (expressionStep 0).bind fun _ => ?_
        exact (Confirms.matchKind closeKind).bind fun _ => Confirms.pure ()
      · exact Confirms.consume.bind fun _ => factorStep
      · exact Confirms.noViableAlternative factorStart factorFollow

/-- The checked statement confirms the statement. -/
theorem confirms_statement (steps : Nat) :
    Confirms (Checked.statement steps) (statement steps) := by
  have valued : Confirms
      (do Checked.expression 0 steps; let _ ← Recognizer.Checked.matchKind semicolonKind)
      (do expression 0 steps; let _ ← Recognizer.matchKind semicolonKind) :=
    ((confirms_expression steps).1 0).bind fun _ =>
      (Confirms.matchKind semicolonKind).bind fun _ => Confirms.pure ()
  refine Confirms.peek.bind fun kind => ?_
  refine Confirms.ite ?_ (Confirms.ite ?_ ?_)
  · refine (Confirms.matchKind letKind).bind fun _ => ?_
    refine (Confirms.matchKind nameKind).bind fun _ => ?_
    exact (Confirms.matchKind assignKind).bind fun _ => valued
  · exact (Confirms.matchKind printKind).bind fun _ => valued
  · exact Confirms.noViableAlternative statementStart statementFollow

/-- The checked statements confirm the statements. -/
theorem confirms_statements (steps turns : Nat) :
    Confirms (Checked.statements steps turns) (statements steps turns) := by
  induction turns with
  | zero => exact Confirms.throw _
  | succ turns ih =>
    refine Confirms.peek.bind fun kind => ?_
    refine Confirms.ite ?_ (Confirms.ite (Confirms.pure ()) ?_)
    · exact (confirms_statement steps).bind fun _ => ih
    · exact (Confirms.noViableAlternative _ statementFollow).bind fun _ => ih

/-- Rules that confirm each other under any bound do so under the one from the input. -/
theorem confirms_bound_bind {checked rule : Nat → Rule Unit}
    (bounded : ∀ steps, Confirms (checked steps) (rule steps)) :
    Confirms (bound >>= checked) (bound >>= rule) :=
  Confirms.get_bind fun _ => bounded _

/-- Every checked rule confirms the rule of its name. -/
theorem confirms_rule (name : String) : Confirms (Checked.rule name) (rule name) := by
  unfold Checked.rule
  split
  · refine confirms_bound_bind fun steps => (confirms_statements steps steps).bind fun _ => ?_
    exact (Confirms.matchKind .eof).bind fun _ => Confirms.pure ()
  · exact confirms_bound_bind confirms_statement
  · exact confirms_bound_bind fun steps => (confirms_expression steps).1 0
  · exact confirms_bound_bind fun steps => (confirms_expression steps).2.2
  · have foreign : rule name = throw (.internal ("SnafuParser has no rule '" ++ name ++ "'")) := by
      unfold rule
      split
      · contradiction
      · contradiction
      · contradiction
      · contradiction
      · rfl
    rw [foreign]
    exact Confirms.throw _

end Conformance.Snafu
