import Conformance.Grammar.Snafu.Rules
import Conformance.Grammar.Word
import Conformance.Proofs.Recognition.Built

/-!
# The rules of the languages are built

All rules of Snafu and of Word are put together from the steps of a recognizer, so what is shown of
such rules holds of both languages.
-/

namespace Conformance

open Rule

namespace Snafu

/-! ## The rules of Snafu -/

/-- Running out of steps is a failure, and it is built. -/
theorem built_outOfSteps : outOfSteps.Built :=
  Built.throw fun _ => nofun

/-- Opening a factor around a rule keeps it built. -/
theorem built_nestFactor {body : Rule Unit} (inner : body.Built) : (nestFactor body).Built := by
  let refused : Rule Unit := do throw (tooDeep (← Recognizer.lookahead 1).position.line)
  have tooMany : refused.Built :=
    (Built.lookahead 1).bind fun token => Built.throw fun _ => nofun
  exact Built.measure (fun depth _ => if maxDepth ≤ depth then refused else Recognizer.nested body)
    fun depth _ => Built.ite tooMany (Built.nested inner)

/-- The rules of expressions are built under any bound on their steps. -/
theorem built_expression (steps : Nat) :
    (∀ least, (expression least steps).Built) ∧ (∀ least, (operations least steps).Built) ∧
      (factor steps).Built := by
  induction steps with
  | zero =>
    exact ⟨fun _ => built_outOfSteps, fun _ => built_outOfSteps, built_outOfSteps⟩
  | succ steps ih =>
    obtain ⟨expressionStep, operationsStep, factorStep⟩ := ih
    refine ⟨fun least => ?_, fun least => ?_, ?_⟩
    · exact factorStep.bind fun _ => operationsStep least
    · refine Built.peek.bind fun kind => ?_
      cases precedence? kind with
      | none => exact Built.pure ()
      | some precedence =>
        refine Built.ite (Built.pure ()) ?_
        refine Built.consume.bind fun _ => ?_
        exact (expressionStep (precedence + 1)).bind fun _ => operationsStep least
    · refine built_nestFactor (Built.peek.bind fun kind => ?_)
      refine Built.ite (Built.consume.bind fun _ => Built.pure ()) ?_
      refine Built.ite ?_ (Built.ite ?_ ?_)
      · refine Built.consume.bind fun _ => (expressionStep 0).bind fun _ => ?_
        exact (Built.matchKind closeKind).bind fun _ => Built.pure ()
      · exact Built.consume.bind fun _ => factorStep
      · exact Built.noViableAlternative factorStart factorFollow

/-- A statement is built. -/
theorem built_statement (steps : Nat) : (statement steps).Built := by
  have valued : (do expression 0 steps; let _ ← Recognizer.matchKind semicolonKind).Built :=
    ((built_expression steps).1 0).bind fun _ =>
      (Built.matchKind semicolonKind).bind fun _ => Built.pure ()
  refine Built.peek.bind fun kind => ?_
  refine Built.ite ?_ (Built.ite ?_ ?_)
  · refine (Built.matchKind letKind).bind fun _ => ?_
    refine (Built.matchKind nameKind).bind fun _ => ?_
    exact (Built.matchKind assignKind).bind fun _ => valued
  · exact (Built.matchKind printKind).bind fun _ => valued
  · exact Built.noViableAlternative statementStart statementFollow

/-- Statements one after the other are built. -/
theorem built_statements (steps turns : Nat) : (statements steps turns).Built := by
  induction turns with
  | zero => exact built_outOfSteps
  | succ turns ih =>
    refine Built.peek.bind fun kind => ?_
    refine Built.ite ?_ (Built.ite (Built.pure ()) ?_)
    · exact (built_statement steps).bind fun _ => ih
    · exact (Built.noViableAlternative _ statementFollow).bind fun _ => ih

/-- A rule that is given a bound on its steps is built. -/
theorem built_bound_bind {rule : Nat → Rule Unit} (bounded : ∀ steps, (rule steps).Built) :
    (bound >>= rule).Built := by
  refine Built.bind ?_ bounded
  exact Built.measure (fun _ outstanding => pure (2 * outstanding + 4)) fun _ _ => Built.pure _

/-- Every rule that Snafu offers by a name is built. -/
theorem built_rule (name : String) : (rule name).Built := by
  unfold rule
  split
  · refine built_bound_bind fun steps => (built_statements steps steps).bind fun _ => ?_
    exact (Built.matchKind .eof).bind fun _ => Built.pure ()
  · exact built_bound_bind built_statement
  · exact built_bound_bind fun steps => (built_expression steps).1 0
  · exact built_bound_bind fun steps => (built_expression steps).2.2
  · exact Built.throw fun _ => nofun

end Snafu

namespace Word

/-! ## The rules of Word -/

/-- Words one after the other are built. -/
theorem built_words (turns : Nat) : (words turns).Built := by
  induction turns with
  | zero => exact Built.pure ()
  | succ turns ih =>
    refine Built.peek.bind fun kind => ?_
    exact Built.ite (Built.consume.bind fun _ => ih) (Built.pure ())

/-- Every rule that Word offers by a name is built. -/
theorem built_rule (name : String) : (rule name).Built := by
  unfold rule
  split
  · let ended : Rule Unit := do
      let _ ← Recognizer.matchKind semicolonKind
      let _ ← Recognizer.matchKind .eof
    have ending : ended.Built := (Built.matchKind semicolonKind).bind fun _ =>
      (Built.matchKind .eof).bind fun _ => Built.pure ()
    exact Built.measure (fun _ outstanding => words (outstanding + 1) >>= fun _ => ended)
      fun _ _ => (built_words _).bind fun _ => ending
  · exact (Built.matchKind wordKind).bind fun _ => Built.pure ()
  · exact Built.throw fun _ => nofun
  · exact Built.throw fun _ => nofun
  · exact Built.throw fun _ => nofun

end Word

/-! ## Parsers -/

/-- A parser offers the rules of a language: it describes and runs them as the grammar does, and
shows its display names. -/
structure Grammar.Offers (grammar : Grammar) (parser : Parser) : Prop where
  /-- The descriptions are those of the language. -/
  table : parser.table = grammar.table
  /-- So are the rules. -/
  rule : parser.rule = grammar.rule
  /-- So are the display names. -/
  vocabulary : parser.state.vocabulary = grammar.vocabulary

/-- Every rule that a parser of Snafu or of Word offers by a name is built. -/
theorem Grammar.Offers.built {grammar : Grammar} {parser : Parser} (offers : grammar.Offers parser)
    (known : grammar = Snafu.grammar ∨ grammar = Word.grammar) (name : String) :
    (parser.rule name).Built := by
  rw [offers.rule]
  rcases known with rfl | rfl
  · exact Snafu.built_rule name
  · exact Word.built_rule name

end Conformance
