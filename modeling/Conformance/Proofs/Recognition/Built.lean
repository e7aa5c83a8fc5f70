import Conformance.Proofs.Recognition.FirstError

/-!
# Rules built from the steps of a recognizer

A rule that is put together from the steps of a recognizer sees nothing of it but the tokens ahead,
the number of open constructs and a bound on the input. What holds of the steps, and of rules put
one after the other, holds of every such rule.
-/

namespace Conformance.Rule

/-- Rules that are put together from the steps of a recognizer. -/
inductive Built : {α : Type} → Rule α → Prop
  /-- Returning. -/
  | pure {α : Type} (value : α) : Built (Pure.pure value : Rule α)
  /-- Failing for another reason than an error of the input. -/
  | throw {α : Type} {failure : RuleFailure} (other : ∀ cause, failure ≠ .cancelled cause) :
    Built (MonadExcept.throw failure : Rule α)
  /-- One rule after the other. -/
  | bind {α β : Type} {rule : Rule α} {next : α → Rule β} (first : Built rule)
    (second : ∀ value, Built (next value)) : Built (rule >>= next)
  /-- Asking for the open constructs and the input that is outstanding. -/
  | measure {β : Type} (next : Nat → Nat → Rule β)
    (second : ∀ depth outstanding, Built (next depth outstanding)) :
    Built (get >>= fun recognizer => next recognizer.depth recognizer.outstanding)
  /-- Running a rule inside a nested construct. -/
  | nested {α : Type} {body : Rule α} (inner : Built body) : Built (Recognizer.nested body)
  /-- Looking ahead. -/
  | lookahead (offset : Nat) : Built (Recognizer.lookahead offset)
  /-- Consuming a token. -/
  | consume : Built Recognizer.consume
  /-- Taking a token that is due. -/
  | matchKind (kind : Kind) : Built (Recognizer.matchKind kind)
  /-- Finding no viable alternative. -/
  | noViableAlternative (expected follow : List Kind) :
    Built (Recognizer.noViableAlternative expected follow)

namespace Built

variable {α : Type}

/-- A choice between built rules is built. -/
theorem ite {condition : Prop} [Decidable condition] {rule other : Rule α} (chosen : rule.Built)
    (refused : other.Built) : Built (if condition then rule else other) := by
  by_cases holds : condition
  · rw [if_pos holds]
    exact chosen
  · rw [if_neg holds]
    exact refused

/-- Peeking is built. -/
theorem peek : Built Recognizer.peek :=
  (lookahead 1).bind fun token => .pure token.kind

/-- A built rule does the same under both strategies until the first error. -/
theorem inStep {rule : Rule α} (built : rule.Built) : rule.InStep := by
  induction built with
  | pure value => exact .pure value
  | throw other => exact .throw other
  | bind _ _ first second => exact first.bind second
  | measure next _ second => exact .get_bind (fun _ => rfl) fun recognizer => second _ _
  | nested _ inner => exact inner.nested
  | lookahead offset => exact .lookahead offset
  | consume => exact .consume
  | matchKind kind => exact .matchKind kind
  | noViableAlternative expected follow => exact .noViableAlternative expected follow

end Built

end Conformance.Rule
