import Conformance.Proofs.Recognition.Built
import Conformance.Proofs.Recognition.Standing

/-!
# Errors describe what was expected

A rule that is put together from the steps of a recognizer never changes the display names, and the
errors that cancel it describe the kinds that were expected by these names.
-/

namespace Conformance

/-- The cause of an error is that no alternative fits, or describes the kinds that were expected by
their display names. -/
def RecognitionError.Described (vocabulary : List String) (error : RecognitionError) : Prop :=
  error.cause = .noViableAlternative ∨
    error.cause = .mismatch (Recognizer.describe vocabulary error.expected)

namespace Strategy

/-- A strategy fails at a token only by cancelling the rule. -/
theorem repairToken_eq_error (strategy : Strategy) (input : TokenBuffer)
    (error : RecognitionError) : ∀ failure,
      (strategy.repairToken input error).1 = .error failure → failure = .cancelled error := by
  intro failure failed
  cases strategy with
  | failFast =>
    cases failed
    rfl
  | recovering reported =>
    obtain ⟨token, after, repaired⟩ := repairToken_recovering reported input error
    rw [repaired] at failed
    cases failed

/-- A strategy fails at a decision only by cancelling the rule. -/
theorem repairDecision_eq_error (strategy : Strategy) (input : TokenBuffer)
    (error : RecognitionError) (follow : List Kind) : ∀ failure,
      (strategy.repairDecision input error follow).1 = .error failure →
        failure = .cancelled error := by
  intro failure failed
  cases strategy with
  | failFast =>
    cases failed
    rfl
  | recovering reported => cases failed

end Strategy

namespace Rule

open Recognizer

/-- A rule keeps the display names, and it is cancelled by described errors only. -/
def Describes {α : Type} (rule : Rule α) : Prop :=
  ∀ recognizer, rule.Ends recognizer
    (fun _ after => after.vocabulary = recognizer.vocabulary)
    fun failure after => after.vocabulary = recognizer.vocabulary ∧
      ∀ cause, failure = .cancelled cause → cause.Described recognizer.vocabulary

/-- A repair keeps the display names, and it cancels the rule by the error that it was given. -/
theorem ends_settle {α : Type} {recognizer : Recognizer} {error : RecognitionError}
    (described : error.Described recognizer.vocabulary)
    {outcome : Except RuleFailure α × Strategy × TokenBuffer}
    (repaired : ∀ failure, outcome.1 = .error failure → failure = .cancelled error) :
    Ends (fun _ => recognizer.settle outcome) recognizer
      (fun _ after => after.vocabulary = recognizer.vocabulary)
      fun failure after => after.vocabulary = recognizer.vocabulary ∧
        ∀ cause, failure = .cancelled cause → cause.Described recognizer.vocabulary := by
  obtain ⟨answer, strategy, input⟩ := outcome
  cases answer with
  | ok value => exact rfl
  | error failure =>
    refine ⟨rfl, fun cause cancelled => ?_⟩
    have same := (repaired failure rfl).symm.trans cancelled
    cases same
    exact described

/-- Looking at the next token and going on describes errors if going on does. -/
theorem Describes.lookahead_bind {α : Type} {next : Token → Rule α}
    (describes : ∀ token, (next token).Describes) : (lookahead 1 >>= next).Describes := by
  intro recognizer
  have looked : (lookahead 1).Ends recognizer
      (fun _ after => after.vocabulary = recognizer.vocabulary)
      fun failure after => after.vocabulary = recognizer.vocabulary ∧
        ∀ cause, failure = .cancelled cause → cause.Described recognizer.vocabulary := rfl
  refine looked.bind fun token after same => ?_
  rw [← same]
  exact describes token after

/-- Every rule that is put together from the steps of a recognizer describes its errors. -/
theorem Built.describes {α : Type} {rule : Rule α} (built : rule.Built) : rule.Describes := by
  induction built with
  | pure value => exact fun recognizer => rfl
  | throw other => exact fun recognizer => ⟨rfl, fun cause same => absurd same (other cause)⟩
  | bind _ _ first second =>
    intro recognizer
    refine (first recognizer).bind fun value after same => ?_
    rw [← same]
    exact second value after
  | measure next _ second => exact fun recognizer => second _ _ recognizer
  | nested _ inner => exact fun recognizer => Ends.nested (inner _)
  | lookahead offset => exact fun recognizer => rfl
  | consume => exact fun recognizer => rfl
  | matchKind kind =>
    refine Describes.lookahead_bind fun token recognizer => ?_
    apply Ends.ite
    · exact fun _ => rfl
    · exact fun _ => ends_settle (.inr rfl) (Strategy.repairToken_eq_error _ _ _)
  | noViableAlternative expected follow =>
    refine Describes.lookahead_bind fun token recognizer => ?_
    apply ends_settle _ (Strategy.repairDecision_eq_error _ _ _ _)
    unfold RecognitionError.Described
    split
    · exact .inl rfl
    · exact .inr rfl

end Rule

end Conformance
