import Conformance.Recognition.Recognizer

/-!
# Two strategies up to the first error

A rule that runs under the fail-fast strategy and under the recovering one does the same in both
runs until the first error. There the first run ends, and the second one reports the error and goes
on. A rule that keeps to this is said to be in step, and so is every rule put together from rules
in step: the second run can add reports to the first one, but never loses it.
-/

namespace Conformance

/-- The recognizer under the recovering strategy before its first error. -/
def Recognizer.lenient (recognizer : Recognizer) : Recognizer :=
  { recognizer with strategy := .recover }

/-- The errors that the strategy of a recognizer has reported. -/
def Recognizer.reported (recognizer : Recognizer) : List RecognitionError :=
  recognizer.strategy.reported.toList

/-- The recovering strategy takes some token for the one due and adds one report. -/
theorem Strategy.repairToken_recovering (reported : Array RecognitionError) (input : TokenBuffer)
    (error : RecognitionError) : ∃ token after,
      (Strategy.recovering reported).repairToken input error =
        (.ok token, .recovering (reported.push error), after) := by
  simp only [repairToken]
  generalize (if error.offending.isEof = true then (none, input) else _) = sought
  split
  · exact ⟨_, _, rfl⟩
  · exact ⟨_, _, rfl⟩

namespace Rule

variable {α β : Type}

/-- The recognizer that a run leaves behind. -/
def left : EStateM.Result RuleFailure Recognizer α → Recognizer
  | .ok _ recognizer => recognizer
  | .error _ recognizer => recognizer

/-- A lenient run follows a strict one: they are the same, unless the strict run was cancelled by
an error, which is then the first one that the lenient run reports. -/
inductive Follows : EStateM.Result RuleFailure Recognizer α →
    EStateM.Result RuleFailure Recognizer α → Prop
  /-- Both runs return. -/
  | returned {value : α} {recognizer : Recognizer} (strict : recognizer.strategy = .failFast) :
    Follows (.ok value recognizer) (.ok value recognizer.lenient)
  /-- Both runs fail for another reason than an error of the input. -/
  | failed {failure : RuleFailure} {recognizer : Recognizer}
    (strict : recognizer.strategy = .failFast) (other : ∀ cause, failure ≠ .cancelled cause) :
    Follows (.error failure recognizer) (.error failure recognizer.lenient)
  /-- The strict run was cancelled. -/
  | reported {cause : RecognitionError} {recognizer : Recognizer}
    {result : EStateM.Result RuleFailure Recognizer α}
    (first : (left result).reported.head? = some cause) :
    Follows (.error (.cancelled cause) recognizer) result

/-- A rule does the same under both strategies until the first error, which then stays the first
one reported. -/
structure InStep (rule : Rule α) : Prop where
  /-- Reports are added to those there are. -/
  keeps : ∀ recognizer, recognizer.reported <+: (left (rule recognizer)).reported
  /-- The lenient run follows the strict one. -/
  follows : ∀ recognizer, recognizer.strategy = .failFast →
    Follows (rule recognizer) (rule recognizer.lenient)

/-- A first report is still the first one when reports have been added. -/
theorem head?_reported {before after : List RecognitionError} {cause : RecognitionError}
    (first : before.head? = some cause) (kept : before <+: after) : after.head? = some cause := by
  obtain ⟨added, rfl⟩ := kept
  rw [List.head?_append, first]
  rfl

namespace InStep

/-! ## Rules put together -/

/-- Returning is in step. -/
theorem pure (value : α) : InStep (Pure.pure value : Rule α) where
  keeps _ := List.prefix_refl _
  follows _ strict := .returned strict

/-- Failing for another reason than an error of the input is in step. -/
theorem throw {failure : RuleFailure} (other : ∀ cause, failure ≠ .cancelled cause) :
    InStep (MonadExcept.throw failure : Rule α) where
  keeps _ := List.prefix_refl _
  follows _ strict := .failed strict other

/-- A choice between rules in step is in step. -/
theorem ite {condition : Prop} [Decidable condition] {rule other : Rule α}
    (chosen : rule.InStep) (refused : other.InStep) :
    InStep (if condition then rule else other) := by
  by_cases holds : condition
  · rw [if_pos holds]
    exact chosen
  · rw [if_neg holds]
    exact refused

/-- Two rules in step, one after the other, are in step. -/
theorem bind {rule : Rule α} {next : α → Rule β} (first : rule.InStep)
    (second : ∀ value, (next value).InStep) : (rule >>= next).InStep where
  keeps recognizer := by
    have kept := first.keeps recognizer
    simp only [Bind.bind, EStateM.bind]
    generalize rule recognizer = run at kept ⊢
    cases run with
    | ok value state => exact kept.trans ((second value).keeps state)
    | error failure state => exact kept
  follows recognizer strict := by
    have follows := first.follows recognizer strict
    simp only [Bind.bind, EStateM.bind]
    generalize rule recognizer = strictRun at follows ⊢
    generalize rule recognizer.lenient = lenientRun at follows ⊢
    cases follows with
    | returned strictAfter => exact (second _).follows _ strictAfter
    | failed strictAfter other => exact .failed strictAfter other
    | reported reported =>
      cases lenientRun with
      | ok value state => exact .reported (head?_reported reported ((second value).keeps state))
      | error failure state => exact .reported reported

/-- Reading the recognizer is in step if what is done then does not depend on its strategy. -/
theorem get_bind {next : Recognizer → Rule β}
    (blind : ∀ recognizer : Recognizer, next recognizer.lenient = next recognizer)
    (second : ∀ recognizer, (next recognizer).InStep) : InStep (get >>= next) where
  keeps recognizer := (second recognizer).keeps recognizer
  follows recognizer strict := by
    have follows := (second recognizer).follows recognizer strict
    change Follows (next recognizer recognizer) (next recognizer.lenient recognizer.lenient)
    rw [blind recognizer]
    exact follows

/-- Running a rule inside a nested construct keeps it in step. -/
theorem nested {body : Rule α} (inner : body.InStep) : InStep (Recognizer.nested body) where
  keeps recognizer := by
    have kept := inner.keeps { recognizer with depth := recognizer.depth + 1 }
    simp only [Recognizer.nested]
    generalize body { recognizer with depth := recognizer.depth + 1 } = run at kept ⊢
    cases run with
    | ok value state => exact kept
    | error failure state => exact kept
  follows recognizer strict := by
    have follows := inner.follows { recognizer with depth := recognizer.depth + 1 } strict
    simp only [Recognizer.nested]
    change Follows _ (match body (Recognizer.lenient { recognizer with
      depth := recognizer.depth + 1 }) with
      | .ok value after => .ok value { after with depth := after.depth - 1 }
      | .error failure after => .error failure { after with depth := after.depth - 1 })
    generalize body { recognizer with depth := recognizer.depth + 1 } = strictRun at follows ⊢
    generalize body (Recognizer.lenient _) = lenientRun at follows ⊢
    cases follows with
    | returned strictAfter => exact .returned strictAfter
    | failed strictAfter other => exact .failed strictAfter other
    | reported reported =>
      cases lenientRun with
      | ok value state => exact .reported reported
      | error failure state => exact .reported reported

/-! ## The steps of a recognizer -/

/-- Looking ahead is in step. -/
theorem lookahead (offset : Nat) : InStep (Recognizer.lookahead offset) where
  keeps _ := List.prefix_refl _
  follows _ strict := .returned strict

/-- Consuming is in step. -/
theorem consume : InStep Recognizer.consume where
  keeps _ := List.prefix_refl _
  follows _ strict := .returned strict

/-- A strategy that adds an error to its reports, or stops at it, is in step. -/
theorem settle {repair : Recognizer → Except RuleFailure α × Strategy × TokenBuffer}
    (error : Recognizer → RecognitionError)
    (blind : ∀ recognizer : Recognizer, error recognizer.lenient = error recognizer)
    (stops : ∀ recognizer : Recognizer, recognizer.strategy = .failFast →
      repair recognizer = (.error (.cancelled (error recognizer)), .failFast, recognizer.input))
    (reports : ∀ (recognizer : Recognizer) (reported : Array RecognitionError),
      recognizer.strategy = .recovering reported → ∃ value input,
        repair recognizer = (.ok value, .recovering (reported.push (error recognizer)), input)) :
    InStep (fun recognizer => recognizer.settle (repair recognizer) : Rule α) where
  keeps recognizer := by
    cases kind : recognizer.strategy with
    | failFast =>
      rw [stops recognizer kind]
      simp [Recognizer.settle, left, Recognizer.reported, kind, Strategy.reported]
    | recovering reported =>
      obtain ⟨value, input, repaired⟩ := reports recognizer reported kind
      rw [repaired]
      simp [Recognizer.settle, left, Recognizer.reported, kind, Strategy.reported]
  follows recognizer strict := by
    obtain ⟨value, input, repaired⟩ := reports recognizer.lenient #[] rfl
    rw [stops recognizer strict, repaired, blind]
    exact .reported rfl

/-- Taking a token of one kind is in step. -/
theorem matchKind (kind : Kind) : InStep (Recognizer.matchKind kind) := by
  refine (lookahead 1).bind fun token => ?_
  refine ite consume ?_
  refine settle (fun recognizer =>
    ⟨.mismatch (Recognizer.describe recognizer.vocabulary [kind]), token, [kind]⟩)
    (fun _ => rfl) (fun recognizer strict => ?_) fun recognizer reported lenient => ?_
  · rw [strict]
    rfl
  · rw [lenient]
    exact Strategy.repairToken_recovering reported recognizer.input _

/-- Finding no viable alternative is in step. -/
theorem noViableAlternative (expected follow : List Kind) :
    InStep (Recognizer.noViableAlternative expected follow) := by
  refine (lookahead 1).bind fun token => ?_
  refine settle (fun recognizer =>
    ⟨if token.isEof || expected.isEmpty then .noViableAlternative
      else .mismatch (Recognizer.describe recognizer.vocabulary expected), token, expected⟩)
    (fun _ => rfl) (fun recognizer strict => ?_) fun recognizer reported lenient => ?_
  · rw [strict]
    rfl
  · rw [lenient]
    exact ⟨_, _, rfl⟩

end InStep

end Rule

end Conformance
