import Conformance.Proofs.Recognition.Described
import Conformance.Proofs.Recognition.Repair
import Conformance.Proofs.Token.Demand

/-!
# The contract of the strategies

A recognizer over a source stands somewhere in the tokens that parsers see, whatever has been done
with it. From there a token of the kind due is taken under either strategy. At any other token the
recovering strategy adds one report and goes on, with a token of the kind due or at a token on which
the rule can resume, and the fail-fast strategy cancels the rule by the same error and moves
nothing.
-/

namespace Conformance

/-- A rule answers so, and leaves its recognizer under a strategy with these tokens to come. -/
def Rule.Gives {α : Type} (rule : Rule α) (recognizer : Recognizer) (answer : Except RuleFailure α)
    (strategy : Strategy) (tokens : List Token) : Prop :=
  rule.Ends recognizer
    (fun value after => answer = .ok value ∧ after.Stands strategy recognizer.depth tokens)
    fun failure after => answer = .error failure ∧ after.Stands strategy recognizer.depth tokens

/-- What holds of the recognizer at either end of a rule holds of the one that it leaves. -/
theorem Rule.Ends.left {α : Type} {rule : Rule α} {recognizer : Recognizer}
    (holds : Recognizer → Prop)
    (ends : rule.Ends recognizer (fun _ after => holds after) fun _ after => holds after) :
    holds (Rule.left (rule recognizer)) := by
  unfold Ends at ends
  generalize rule recognizer = run at ends ⊢
  cases run with
  | ok value after => exact ends
  | error failure after => exact ends

/-- The recognizer left by a rule shows the tokens to come. -/
theorem Rule.Gives.shown {α : Type} {rule : Rule α} {recognizer : Recognizer}
    {answer : Except RuleFailure α} {strategy : Strategy} {tokens : List Token}
    (gives : rule.Gives recognizer answer strategy tokens) :
    (left (rule recognizer)).input.Shows tokens := by
  apply Ends.left fun after => after.input.Shows tokens
  exact gives.mono (fun _ _ given => given.2.shown) fun _ _ given => given.2.shown

/-- Taking a token leaves the end of what was to come. -/
theorem suffix_of_taken (token : Token) (rest : List Token) :
    (if token.isEof then token :: rest else rest) <:+ token :: rest := by
  split
  · exact List.suffix_rfl
  · exact List.suffix_cons token rest

namespace Recognizer

open Rule

/-! ## Single steps -/

section

variable {recognizer : Recognizer} {token : Token} {rest : List Token}

/-- A token of the kind due is taken under either strategy. -/
theorem gives_matchKind_of_eq (shown : recognizer.input.Shows (token :: rest)) {kind : Kind}
    (due : token.kind = kind) :
    (matchKind kind).Gives recognizer (.ok token) recognizer.strategy
      (if token.isEof then token :: rest else rest) := by
  subst due
  have stands : recognizer.Stands recognizer.strategy recognizer.depth (token :: rest) :=
    ⟨rfl, rfl, shown⟩
  refine stands.matchKind_of_eq.mono (fun found after taken => ?_) fun _ _ bad => bad
  exact ⟨congrArg Except.ok taken.1.symm, taken.2⟩

section

variable {reported : Array RecognitionError}
  (recovering : recognizer.strategy = .recovering reported)
include recovering

/-- The recovering strategy drops a token before one of the kind due. -/
theorem gives_matchKind_drop {next : Token} {further : List Token}
    (shown : recognizer.input.Shows (token :: next :: further)) (going : token.isEof = false)
    {kind : Kind} (other : token.kind ≠ kind) (fits : next.kind = kind) :
    (matchKind kind).Gives recognizer (.ok next)
      (.recovering (reported.push (.mismatchAt recognizer.vocabulary kind token)))
      (if next.isEof then next :: further else further) := by
  subst fits
  have stands : recognizer.Stands (.recovering reported) recognizer.depth
      (token :: next :: further) := ⟨recovering, rfl, shown⟩
  refine (stands.matchKind_drop going other).mono (fun found after taken => ?_) fun _ _ bad => bad
  exact ⟨congrArg Except.ok taken.1.symm, taken.2⟩

/-- The recovering strategy makes a token up where none of the kind due stands next or behind. -/
theorem gives_matchKind_makeUp (shown : recognizer.input.Shows (token :: rest)) {kind : Kind}
    (other : token.kind ≠ kind)
    (absent : token.isEof = true ∨ ∀ next ∈ rest.head?, next.kind ≠ kind) :
    (matchKind kind).Gives recognizer (.ok (Strategy.missing kind token.position))
      (.recovering (reported.push (.mismatchAt recognizer.vocabulary kind token)))
      (token :: rest) := by
  have behind : ∀ next ∈ rest.head?, next.kind ≠ kind := by
    rcases absent with ends | absent
    · have alone : rest = [] := shown.terminated_tokens.eq_singleton ends
      simp [alone]
    · exact absent
  have stands : recognizer.Stands (.recovering reported) recognizer.depth (token :: rest) :=
    ⟨recovering, rfl, shown⟩
  refine (stands.matchKind_makeUp other behind).mono (fun found after made => ?_)
    fun _ _ bad => bad
  exact ⟨congrArg Except.ok made.1.symm, made.2⟩

/-- The recovering strategy takes some token of the kind due, whatever comes next. -/
theorem gives_matchKind (shown : recognizer.input.Shows (token :: rest)) (kind : Kind) :
    ∃ found reports left, found.kind = kind ∧ left <:+ token :: rest ∧
      (matchKind kind).Gives recognizer (.ok found) (.recovering reports) left := by
  by_cases due : token.kind = kind
  · exact ⟨token, reported, _, due, suffix_of_taken token rest,
      recovering ▸ gives_matchKind_of_eq shown due⟩
  by_cases absent : token.isEof = true ∨ ∀ next ∈ rest.head?, next.kind ≠ kind
  · exact ⟨_, _, _, rfl, List.suffix_rfl, gives_matchKind_makeUp recovering shown due absent⟩
  simp only [ne_eq, not_or, not_forall, not_not] at absent
  obtain ⟨going, next, first, fits⟩ := absent
  obtain ⟨further, rfl⟩ := List.head?_eq_some_iff.1 first
  exact ⟨next, _, _, fits, (suffix_of_taken next further).trans (List.suffix_cons token _),
    gives_matchKind_drop recovering shown (Bool.eq_false_iff.2 going) due fits⟩

/-- The recovering strategy goes on at the first token on which a rule can resume. -/
theorem gives_noViableAlternative (shown : recognizer.input.Shows (token :: rest))
    (expected follow : List Kind) :
    ∃ passed stop left, token :: rest = passed ++ stop :: left ∧ stop.resumes follow = true ∧
      (∀ other ∈ passed, other.resumes follow = false) ∧
      (noViableAlternative expected follow).Gives recognizer (.ok ())
        (.recovering (reported.push (.undecidedAt recognizer.vocabulary expected token)))
        (stop :: left) := by
  have stands : recognizer.Stands (.recovering reported) recognizer.depth (token :: rest) :=
    ⟨recovering, rfl, shown⟩
  obtain ⟨passed, stop, left, split, resumed, resumes, others⟩ :=
    exists_resumption shown.terminated_tokens follow
  refine ⟨passed, stop, left, split, resumes, others, ?_⟩
  rw [← resumed]
  exact (stands.noViableAlternative_resume expected follow).mono
    (fun _ _ stands => ⟨rfl, stands⟩) fun _ _ bad => bad

end

section

variable (failFast : recognizer.strategy = .failFast)
include failFast

/-- The fail-fast strategy is cancelled at a token of another kind than the one due. -/
theorem gives_matchKind_cancelled (shown : recognizer.input.Shows (token :: rest)) {kind : Kind}
    (other : token.kind ≠ kind) :
    (matchKind kind).Gives recognizer
      (.error (.cancelled (.mismatchAt recognizer.vocabulary kind token))) .failFast
      (token :: rest) := by
  have stands : recognizer.Stands .failFast recognizer.depth (token :: rest) :=
    ⟨failFast, rfl, shown⟩
  exact (stands.matchKind_of_ne other).mono (fun _ _ good => good)
    fun _ _ stopped => ⟨congrArg Except.error stopped.1.symm, stopped.2⟩

/-- The fail-fast strategy is cancelled where no alternative fits. -/
theorem gives_noViableAlternative_cancelled (shown : recognizer.input.Shows (token :: rest))
    (expected follow : List Kind) :
    (noViableAlternative expected follow).Gives recognizer
      (.error (.cancelled (.undecidedAt recognizer.vocabulary expected token))) .failFast
      (token :: rest) := by
  have stands : recognizer.Stands .failFast recognizer.depth (token :: rest) :=
    ⟨failFast, rfl, shown⟩
  exact (stands.noViableAlternative expected follow).mono (fun _ _ good => good)
    fun _ _ stopped => ⟨congrArg Except.error stopped.1.symm, stopped.2⟩

end

end

/-! ## Whatever is done with a recognizer -/

/-- A use of a recognizer by the rules of a parser, or a strategy that it is given. -/
inductive Action where
  /-- Look at the visible token an offset ahead. -/
  | lookahead (offset : Nat)
  /-- Consume the next visible token. -/
  | consume
  /-- Take a token of a kind. -/
  | matchKind (kind : Kind)
  /-- Find no viable alternative. -/
  | noViableAlternative (expected follow : List Kind)
  /-- Go on under another strategy. -/
  | install (strategy : Strategy)

/-- The recognizer after an action. -/
def act (recognizer : Recognizer) : Action → Recognizer
  | .lookahead offset => left (lookahead offset recognizer)
  | .consume => left (consume recognizer)
  | .matchKind kind => left (matchKind kind recognizer)
  | .noViableAlternative expected follow => left (noViableAlternative expected follow recognizer)
  | .install strategy => { recognizer with strategy }

/-- The recognizer after some actions, one after the other. -/
def actAll (recognizer : Recognizer) (actions : List Action) : Recognizer :=
  actions.foldl act recognizer

/-- A rule that is put together from the steps of a recognizer leaves the display names. -/
theorem vocabulary_left {α : Type} {rule : Rule α} (built : rule.Built) (recognizer : Recognizer) :
    (left (rule recognizer)).vocabulary = recognizer.vocabulary := by
  apply Ends.left fun after => after.vocabulary = recognizer.vocabulary
  exact (built.describes recognizer).mono (fun _ _ same => same) fun _ _ kept => kept.1

/-- An action keeps the display names. -/
theorem vocabulary_act (recognizer : Recognizer) (action : Action) :
    (recognizer.act action).vocabulary = recognizer.vocabulary := by
  cases action with
  | lookahead offset => exact vocabulary_left (.lookahead offset) recognizer
  | consume => exact vocabulary_left .consume recognizer
  | matchKind kind => exact vocabulary_left (.matchKind kind) recognizer
  | noViableAlternative expected follow =>
    exact vocabulary_left (.noViableAlternative expected follow) recognizer
  | install strategy => rfl

/-- Actions keep the display names. -/
theorem vocabulary_actAll (recognizer : Recognizer) (actions : List Action) :
    (recognizer.actAll actions).vocabulary = recognizer.vocabulary := by
  induction actions generalizing recognizer with
  | nil => rfl
  | cons action actions ih => exact (ih _).trans (recognizer.vocabulary_act action)

/-- An action leaves the end of what a recognizer has shown. -/
theorem shows_act {recognizer : Recognizer} {tokens : List Token}
    (shown : recognizer.input.Shows tokens) (action : Action) :
    ∃ left, left <:+ tokens ∧ (recognizer.act action).input.Shows left := by
  obtain ⟨token, rest, rfl⟩ := List.exists_cons_of_length_pos shown.terminated_tokens.length_pos
  cases action with
  | lookahead offset => exact ⟨_, List.suffix_rfl, (shown.lookahead offset).2⟩
  | consume => exact ⟨_, suffix_of_taken token rest, shown.consume.2⟩
  | matchKind kind =>
    cases installed : recognizer.strategy with
    | recovering reported =>
      obtain ⟨_, _, left, -, suffix, gives⟩ := gives_matchKind installed shown kind
      exact ⟨left, suffix, gives.shown⟩
    | failFast =>
      by_cases due : token.kind = kind
      · exact ⟨_, suffix_of_taken token rest, (gives_matchKind_of_eq shown due).shown⟩
      · exact ⟨_, List.suffix_rfl, (gives_matchKind_cancelled installed shown due).shown⟩
  | noViableAlternative expected follow =>
    cases installed : recognizer.strategy with
    | recovering reported =>
      obtain ⟨passed, stop, left, split, -, -, gives⟩ :=
        gives_noViableAlternative installed shown expected follow
      exact ⟨stop :: left, ⟨passed, split.symm⟩, gives.shown⟩
    | failFast =>
      exact ⟨_, List.suffix_rfl,
        (gives_noViableAlternative_cancelled installed shown expected follow).shown⟩
  | install strategy => exact ⟨_, List.suffix_rfl, shown⟩

/-- Actions leave the end of what a recognizer has shown. -/
theorem shows_actAll {recognizer : Recognizer} {tokens : List Token}
    (shown : recognizer.input.Shows tokens) (actions : List Action) :
    ∃ left, left <:+ tokens ∧ (recognizer.actAll actions).input.Shows left := by
  induction actions generalizing recognizer tokens with
  | nil => exact ⟨tokens, List.suffix_rfl, shown⟩
  | cons action actions ih =>
    obtain ⟨left, suffix, shown⟩ := shows_act shown action
    obtain ⟨last, further, shown⟩ := ih shown
    exact ⟨last, further.trans suffix, shown⟩

/-- Whatever has been done with a recognizer over a source, it stands at one of the tokens that
parsers see. A token of the kind due is taken there, nothing is reported, and the end token stays.

Under the recovering strategy a token of the kind due is always answered. At a token of another kind
one error is added, which names that token. It is dropped with the one behind it taken if it is not
the end and that one is of the kind due; otherwise a token is made up at its position and nothing
moves. Where no alternative fits, one error is added and the recognizer moves to the first token
that ends the input or is of a kind to resume on.

Under the fail-fast strategy both are cancelled by that same error, nothing is reported and nothing
moves. -/
theorem strategy_contract (source : TokenSource) (queries : List TokenBuffer.Query)
    (vocabulary : List String) (strategy : Strategy) (depth : Nat) (actions : List Action) :
    let start : Recognizer :=
      ⟨(TokenBuffer.ofSource source).after queries, strategy, vocabulary, depth⟩
    let core := start.actAll actions
    ∃ before token rest, source.visible = before ++ token :: rest ∧
      core.input.Shows (token :: rest) ∧
      ∀ (kind : Kind) (expected follow : List Kind),
        let mismatch := RecognitionError.mismatchAt vocabulary kind token
        let undecided := RecognitionError.undecidedAt vocabulary expected token
        (token.kind = kind → (matchKind kind).Gives core (.ok token) core.strategy
          (if token.isEof then token :: rest else rest)) ∧
        match core.strategy with
        | .recovering reported =>
          (∃ found reports left, found.kind = kind ∧
            (matchKind kind).Gives core (.ok found) (.recovering reports) left) ∧
          (token.kind ≠ kind →
            (∀ next further, token.isEof = false → rest = next :: further → next.kind = kind →
              (matchKind kind).Gives core (.ok next) (.recovering (reported.push mismatch))
                (if next.isEof then next :: further else further)) ∧
            ((token.isEof = true ∨ ∀ next ∈ rest.head?, next.kind ≠ kind) →
              (matchKind kind).Gives core (.ok (Strategy.missing kind token.position))
                (.recovering (reported.push mismatch)) (token :: rest))) ∧
          ∃ passed stop left, token :: rest = passed ++ stop :: left ∧
            stop.resumes follow = true ∧ (∀ other ∈ passed, other.resumes follow = false) ∧
            (noViableAlternative expected follow).Gives core (.ok ())
              (.recovering (reported.push undecided)) (stop :: left)
        | .failFast =>
          core.strategy.reported = #[] ∧
          (token.kind ≠ kind → (matchKind kind).Gives core (.error (.cancelled mismatch)) .failFast
            (token :: rest)) ∧
          (noViableAlternative expected follow).Gives core (.error (.cancelled undecided)) .failFast
            (token :: rest) := by
  intro start core
  have fresh := TokenBuffer.shows_ofSource source
  obtain ⟨opening, suffix, begun⟩ := fresh.after queries
  have begun : start.input.Shows opening := begun
  obtain ⟨ahead, further, shown⟩ := shows_actAll begun actions
  obtain ⟨token, rest, rfl⟩ := List.exists_cons_of_length_pos shown.terminated_tokens.length_pos
  obtain ⟨before, split⟩ := further.trans suffix
  have names : core.vocabulary = vocabulary := vocabulary_actAll start actions
  have shown : core.input.Shows (token :: rest) := shown
  clear_value core
  rw [← names]
  refine ⟨before, token, rest, split.symm, shown, fun kind expected follow =>
    ⟨gives_matchKind_of_eq shown, ?_⟩⟩
  cases installed : core.strategy with
  | recovering reported =>
    obtain ⟨found, reports, left, same, -, gives⟩ := gives_matchKind installed shown kind
    refine ⟨⟨found, reports, left, same, gives⟩, fun other => ⟨?_, ?_⟩,
      gives_noViableAlternative installed shown expected follow⟩
    · rintro next further going rfl fits
      exact gives_matchKind_drop installed shown going other fits
    · exact gives_matchKind_makeUp installed shown other
  | failFast =>
    exact ⟨rfl, gives_matchKind_cancelled installed shown,
      gives_noViableAlternative_cancelled installed shown expected follow⟩

end Recognizer

end Conformance
