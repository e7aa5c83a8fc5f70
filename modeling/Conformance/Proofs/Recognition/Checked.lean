import Conformance.Proofs.Recognition.FirstError
import Conformance.Proofs.Recognition.Standing

/-!
# Checked steps

The steps of a recognizer are total: a token that has not been fetched reads as the end token, and
one construct less than none is none. Beside them stand steps that break the rule off where a
number is out of range. On the way of a strict recognizer this never happens: wherever it stands,
the checked steps and the rules put together from them do what the total ones do.
-/

namespace Conformance

namespace Recognizer.Checked

variable {α : Type}

/-- A rule that breaks off because a number is out of range. -/
def outOfRange (reason : String) : Rule α :=
  throw (.crashed (.message reason))

/-- The visible token `offset` places ahead, which has to have been fetched. -/
def lookahead (offset : Nat) : Rule Token := fun recognizer =>
  match recognizer.input.lookahead? offset with
  | some (token, input) => .ok token { recognizer with input }
  | none => outOfRange "index out of bounds" recognizer

/-- The kind of the next visible token. -/
def peek : Rule Kind :=
  Token.kind <$> lookahead 1

/-- Consume the next visible token, which has to have been fetched; the end token stays. -/
def consume : Rule Token := fun recognizer =>
  match recognizer.input.consume? with
  | some (token, input) => .ok token { recognizer with input }
  | none => outOfRange "index out of bounds" recognizer

/-- The next token is due to be of one kind: consume it, or leave the mismatch to the strategy. -/
def matchKind (kind : Kind) : Rule Token := do
  let token ← lookahead 1
  if token.kind = kind then
    consume
  else fun recognizer =>
    let error : RecognitionError :=
      ⟨.mismatch (describe recognizer.vocabulary [kind]), token, [kind]⟩
    recognizer.settle (recognizer.strategy.repairToken recognizer.input error)

/-- No alternative of a decision fits the next token. -/
def noViableAlternative (expected follow : List Kind) : Rule Unit := do
  let token ← lookahead 1
  fun recognizer =>
    let cause : RecognitionError.Cause :=
      if token.isEof || expected.isEmpty then .noViableAlternative
      else .mismatch (describe recognizer.vocabulary expected)
    recognizer.settle
      (recognizer.strategy.repairDecision recognizer.input ⟨cause, token, expected⟩ follow)

/-- Close a construct, of which there has to be one, and end in what is left then. -/
def close (finish : Recognizer → EStateM.Result RuleFailure Recognizer α)
    (recognizer : Recognizer) : EStateM.Result RuleFailure Recognizer α :=
  if recognizer.depth = 0 then outOfRange "attempt to subtract with overflow" recognizer
  else finish { recognizer with depth := recognizer.depth - 1 }

/-- Run a rule inside a nested construct, which is closed however the rule ends. -/
def nested (body : Rule α) : Rule α := fun recognizer =>
  match body { recognizer with depth := recognizer.depth + 1 } with
  | .ok value after => close (.ok value) after
  | .error failure after => close (.error failure) after

/-- One more than a number, which has to fit into a byte. -/
def successor (number : Nat) : Rule Nat :=
  if number + 1 < UInt8.size then return number + 1
  else outOfRange "attempt to add with overflow"

end Recognizer.Checked

namespace Rule

variable {α β : Type}

/-- Wherever a strict recognizer stands, one rule does what another one does, and leaves the
recognizer standing with as many constructs open. -/
def Confirms (checked rule : Rule α) : Prop :=
  ∀ (recognizer : Recognizer) (depth : Nat) (tokens : List Token),
    recognizer.Stands .failFast depth tokens →
      checked recognizer = rule recognizer ∧
        ∃ rest, (left (rule recognizer)).Stands .failFast depth rest

namespace Confirms

/-! ## Rules put together -/

/-- Returning confirms itself. -/
theorem pure (value : α) : Confirms (Pure.pure value : Rule α) (Pure.pure value) :=
  fun _ _ tokens stands => ⟨rfl, tokens, stands⟩

/-- Failing confirms itself. -/
theorem throw (failure : RuleFailure) :
    Confirms (MonadExcept.throw failure : Rule α) (MonadExcept.throw failure) :=
  fun _ _ tokens stands => ⟨rfl, tokens, stands⟩

/-- Rules one after the other confirm those that they confirm one by one. -/
theorem bind {checked rule : Rule α} {further next : α → Rule β} (first : Confirms checked rule)
    (second : ∀ value, Confirms (further value) (next value)) :
    Confirms (checked >>= further) (rule >>= next) := by
  intro recognizer depth tokens stands
  obtain ⟨same, rest, kept⟩ := first recognizer depth tokens stands
  simp only [Bind.bind, EStateM.bind]
  rw [same]
  generalize rule recognizer = run at kept ⊢
  cases run with
  | ok value after => exact second value after depth rest kept
  | error failure after => exact ⟨rfl, rest, kept⟩

/-- Reading the recognizer keeps one rule confirming the other. -/
theorem get_bind {further next : Recognizer → Rule β}
    (second : ∀ recognizer, Confirms (further recognizer) (next recognizer)) :
    Confirms (get >>= further) (get >>= next) :=
  fun recognizer depth tokens stands => second recognizer recognizer depth tokens stands

/-- Choices on the same condition confirm each other if the rules chosen do. -/
theorem ite {condition : Prop} [Decidable condition] {checked rule other refused : Rule α}
    (chosen : Confirms checked rule) (unchosen : Confirms other refused) :
    Confirms (if condition then checked else other) (if condition then rule else refused) := by
  by_cases holds : condition
  · rw [if_pos holds, if_pos holds]
    exact chosen
  · rw [if_neg holds, if_neg holds]
    exact unchosen

/-- Inside a nested construct there is one to close. -/
theorem nested {checked body : Rule α} (inner : Confirms checked body) :
    Confirms (Recognizer.Checked.nested checked) (Recognizer.nested body) := by
  intro recognizer depth tokens stands
  have inside : Recognizer.Stands { recognizer with depth := recognizer.depth + 1 } .failFast
      (depth + 1) tokens := ⟨stands.strategy, congrArg (· + 1) stands.depth, stands.shown⟩
  obtain ⟨same, rest, kept⟩ := inner _ _ _ inside
  simp only [Recognizer.Checked.nested, Recognizer.nested]
  rw [same]
  generalize body { recognizer with depth := recognizer.depth + 1 } = run at kept ⊢
  have some : (left run).depth ≠ 0 := by
    rw [kept.depth]
    exact Nat.succ_ne_zero depth
  have closed : Recognizer.Stands { left run with depth := (left run).depth - 1 } .failFast depth
      rest := ⟨kept.strategy, congrArg (· - 1) kept.depth, kept.shown⟩
  cases run with
  | ok value after => exact ⟨if_neg some, rest, closed⟩
  | error failure after => exact ⟨if_neg some, rest, closed⟩

/-- A number well below the greatest byte has a successor. -/
theorem successor_bind {number : Nat} (small : number + 1 < UInt8.size) {further : Nat → Rule β}
    {rule : Rule β} (second : Confirms (further (number + 1)) rule) :
    Confirms (Recognizer.Checked.successor number >>= further) rule := by
  unfold Recognizer.Checked.successor
  rw [if_pos small]
  exact second

/-! ## The steps of a recognizer -/

/-- Where a recognizer stands, the tokens ahead have been fetched before they are read. -/
theorem lookahead (offset : Nat) :
    Confirms (Recognizer.Checked.lookahead offset) (Recognizer.lookahead offset) := by
  intro recognizer depth tokens stands
  refine ⟨?_, tokens, stands.strategy, stands.depth, (stands.shown.lookahead offset).2⟩
  unfold Recognizer.Checked.lookahead
  rw [stands.shown.lookahead?_eq]
  rfl

/-- Where a recognizer stands, the kind of the next token can be read. -/
theorem peek : Confirms Recognizer.Checked.peek Recognizer.peek :=
  (lookahead 1).bind fun token => pure token.kind

/-- Where a recognizer stands, the next token has been fetched before it is consumed. -/
theorem consume : Confirms Recognizer.Checked.consume Recognizer.consume := by
  intro recognizer depth tokens stands
  obtain ⟨token, rest, rfl⟩ := stands.exists_cons
  refine ⟨?_, _, stands.strategy, stands.depth, stands.shown.consume.2⟩
  unfold Recognizer.Checked.consume
  rw [stands.shown.consume?_eq]
  rfl

/-- A strategy that stops at an error leaves the recognizer where it stands. -/
theorem settle {repair : Recognizer → Except RuleFailure α × Strategy × TokenBuffer}
    (stops : ∀ recognizer : Recognizer, recognizer.strategy = .failFast →
      ∃ failure, repair recognizer = (.error failure, .failFast, recognizer.input)) :
    Confirms (fun recognizer => recognizer.settle (repair recognizer) : Rule α)
      (fun recognizer => recognizer.settle (repair recognizer)) := by
  intro recognizer depth tokens stands
  obtain ⟨failure, stopped⟩ := stops recognizer stands.strategy
  refine ⟨rfl, tokens, ?_⟩
  change (left (recognizer.settle (repair recognizer))).Stands .failFast depth tokens
  rw [stopped]
  exact ⟨rfl, stands.depth, stands.shown⟩

/-- Taking a token of one kind reads only what has been fetched. -/
theorem matchKind (kind : Kind) :
    Confirms (Recognizer.Checked.matchKind kind) (Recognizer.matchKind kind) := by
  refine (lookahead 1).bind fun token => ite consume (settle fun recognizer strict => ?_)
  rw [strict]
  exact ⟨_, rfl⟩

/-- Finding no viable alternative reads only what has been fetched. -/
theorem noViableAlternative (expected follow : List Kind) :
    Confirms (Recognizer.Checked.noViableAlternative expected follow)
      (Recognizer.noViableAlternative expected follow) := by
  refine (lookahead 1).bind fun token => settle fun recognizer strict => ?_
  rw [strict]
  exact ⟨_, rfl⟩

end Confirms

end Rule

end Conformance
