import Conformance.Proofs.Snafu.Chain
import Conformance.Proofs.Token.Demand

/-!
# What an expression of a precedence takes

The rule for expressions of at least a precedence reads a factor and then operators with factors
behind them. Each right operand is an expression of the next higher precedence, so it takes a part
of what follows, and the rule goes on behind it. Altogether the rule takes one factor and the
longest chain of operators of at least its precedence, each with one factor behind it. It returns
for just those tokens that begin so with room for every factor.
-/

namespace Conformance.Snafu

open Recognizer Rule

/-! ## Strict runs in front of some tokens -/

/-- A run of a rule that stops at the first error, in front of some tokens and with so many factors
open, leaves a rest of them with some property. It fails only where that is admitted. -/
def Leaves (rule : Rule Unit) (depth : Nat) (tokens : List Token) (left : List Token → Prop)
    (fails : Prop) : Prop :=
  ∀ recognizer : Recognizer, recognizer.Stands .failFast depth tokens →
    rule.Ends recognizer (fun _ after => ∃ rest, left rest ∧ after.Stands .failFast depth rest)
      fun _ _ => fails

namespace Leaves

variable {rule : Rule Unit} {depth : Nat} {token : Token} {tokens rest : List Token}
  {left middle : List Token → Prop} {fails : Prop} {kind : Kind}

/-- Some token is always to come. -/
theorem of_cons
    (leaves : ∀ token rest, tokens = token :: rest → Leaves rule depth tokens left fails) :
    Leaves rule depth tokens left fails := by
  intro recognizer stands
  obtain ⟨token, rest, same⟩ := stands.exists_cons
  exact leaves token rest same recognizer stands

/-- Returning leaves all tokens. -/
theorem pure (here : left tokens) : Leaves (Pure.pure ()) depth tokens left fails :=
  fun _ stands => Ends.pure ⟨tokens, here, stands⟩

/-- A rule leaves what the next one goes on with. -/
theorem bind {next : Unit → Rule Unit} (first : Leaves rule depth tokens middle fails)
    (second : ∀ rest, middle rest → Leaves (next ()) depth rest left fails) :
    Leaves (rule >>= next) depth tokens left fails := by
  intro recognizer stands
  refine (first recognizer stands).bind ?_
  rintro _ after ⟨rest, some, stands⟩
  exact second rest some after stands

/-- Less can be asked of what is left. -/
theorem mono (leaves : Leaves rule depth tokens middle fails)
    (weaker : ∀ rest, middle rest → left rest) : Leaves rule depth tokens left fails := by
  intro recognizer stands
  refine (leaves recognizer stands).mono ?_ fun _ _ failed => failed
  rintro _ after ⟨rest, some, stands⟩
  exact ⟨rest, weaker rest some, stands⟩

/-- A choice leaves what the rule chosen does. -/
theorem ite {condition : Prop} [Decidable condition] {other : Rule Unit}
    (chosen : condition → Leaves rule depth tokens left fails)
    (refused : ¬ condition → Leaves other depth tokens left fails) :
    Leaves (if condition then rule else other) depth tokens left fails :=
  fun recognizer stands => Ends.ite (fun holds => chosen holds recognizer stands)
    fun other => refused other recognizer stands

/-- Peeking leaves all tokens. -/
theorem peek_bind {next : Kind → Rule Unit}
    (further : Leaves (next token.kind) depth (token :: rest) left fails) :
    Leaves (peek >>= next) depth (token :: rest) left fails := by
  intro recognizer stands
  refine stands.peek.bind ?_
  rintro _ after ⟨rfl, stands⟩
  exact further after stands

/-- Consuming leaves the tokens behind the next one. -/
theorem consume_bind {next : Token → Rule Unit} (going : token.kind ≠ .eof)
    (further : Leaves (next token) depth rest left fails) :
    Leaves (consume >>= next) depth (token :: rest) left fails := by
  intro recognizer stands
  refine (stands.consume (Progress.isEof_eq_false going)).bind ?_
  rintro _ after ⟨rfl, behind⟩
  exact further after behind

/-- A token of the kind due is taken, and at another one the run fails. -/
theorem matchKind_bind {next : Token → Rule Unit} (going : kind ≠ .eof)
    (taken : token.kind = kind → Leaves (next token) depth rest left fails)
    (refused : token.kind ≠ kind → fails) :
    Leaves (matchKind kind >>= next) depth (token :: rest) left fails := by
  intro recognizer stands
  by_cases due : token.kind = kind
  · subst due
    refine stands.matchKind_of_eq.bind ?_
    rintro _ after ⟨rfl, stands⟩
    rw [Progress.isEof_eq_false going] at stands
    exact taken rfl after stands
  · exact ((stands.matchKind_of_ne due).mono (fun _ _ found => found)
      fun _ _ _ => refused due).bind fun _ _ (impossible : False) => impossible.elim

/-- Where no alternative fits, the run fails. -/
theorem noViableAlternative (expected follow : List Kind) (admitted : fails) :
    Leaves (Recognizer.noViableAlternative expected follow) depth (token :: rest) left fails :=
  fun _ stands => (stands.noViableAlternative expected follow).mono
    (fun _ _ (impossible : False) => impossible.elim) fun _ _ _ => admitted

/-- A factor has room for one factor less, and fails where there is no room. -/
theorem nestFactor (full : maxDepth ≤ depth → fails)
    (inner : depth < maxDepth → Leaves rule (depth + 1) (token :: rest) left fails) :
    Leaves (nestFactor rule) depth (token :: rest) left fails := by
  intro recognizer stands
  have opened := stands.depth
  refine Ends.ite (fun deep => ?_) fun free => ?_
  · refine stands.lookahead.bind ?_
    rintro _ after -
    exact full (opened ▸ deep)
  · refine Ends.nested ((inner (by omega) { recognizer with depth := recognizer.depth + 1 }
      ⟨stands.strategy, congrArg (· + 1) opened, stands.shown⟩).mono ?_ fun _ _ failed => failed)
    rintro _ after ⟨rest, some, stands⟩
    exact ⟨rest, some, stands.strategy, congrArg (· - 1) stands.depth, stands.shown⟩

end Leaves

/-! ## Expressions of a precedence -/

/-- Inside so many factors, a factor in front of some tokens leaves a rest of them. -/
def TakesFactor (depth : Nat) (tokens rest : List Token) : Prop :=
  ∃ operand, tokens = operand ++ rest ∧ IsFactor (maxDepth - depth) operand

/-- A chain in front of some tokens leaves a rest that does not go on with it. -/
def TakesChain (least depth : Nat) (tokens rest : List Token) : Prop :=
  ∃ chain, tokens = chain ++ rest ∧ Chain least (maxDepth - depth) chain ∧
    ∀ next ∈ rest.head?, Ended least next.kind

/-- A factor and a chain in front of some tokens leave a rest that does not go on with them. -/
def TakesExpression (least depth : Nat) (tokens rest : List Token) : Prop :=
  ∃ middle, TakesFactor depth tokens middle ∧ TakesChain least depth middle rest

/-- However many steps there are, an expression that returns has taken a factor and a chain. -/
def ExpressionTakes (steps : Nat) : Prop :=
  ∀ (least depth : Nat) (tokens : List Token),
    Leaves (expression least steps) depth tokens (TakesExpression least depth tokens) True

/-- However many steps there are, operators that return have taken a chain. -/
def OperationsTake (steps : Nat) : Prop :=
  ∀ (least depth : Nat) (tokens : List Token),
    Leaves (operations least steps) depth tokens (TakesChain least depth tokens) True

/-- However many steps there are, a factor that returns has taken one. -/
def FactorTakes (steps : Nat) : Prop :=
  ∀ (depth : Nat) (tokens : List Token),
    Leaves (factor steps) depth tokens (TakesFactor depth tokens) True

variable {steps : Nat}

/-- An expression takes a factor with the chain behind it. -/
theorem expressionTakes_succ (operationsTake : OperationsTake steps)
    (factorTakes : FactorTakes steps) : ExpressionTakes (steps + 1) := by
  intro least depth tokens
  refine (factorTakes depth tokens).bind fun middle factor => ?_
  exact (operationsTake least depth middle).mono fun rest chain => ⟨middle, factor, chain⟩

/-- An operator is taken with its right operand, which is a chain of its own, and with the chain
behind that. -/
theorem operationsTake_succ (expressionTakes : ExpressionTakes steps)
    (operationsTake : OperationsTake steps) : OperationsTake (steps + 1) := by
  intro least depth tokens
  refine Leaves.of_cons ?_
  rintro token rest rfl
  refine Leaves.peek_bind ?_
  have stays (ended : Ended least token.kind) :
      TakesChain least depth (token :: rest) (token :: rest) :=
    ⟨[], rfl, .nil, by simpa using ended⟩
  cases found : precedence? token.kind with
  | none => exact Leaves.pure (stays fun precedence some => by simp [found] at some)
  | some precedence =>
    refine Leaves.ite (fun low => ?_) fun high => ?_
    · refine Leaves.pure (stays fun other some => ?_)
      rw [found] at some
      exact Option.some.inj some ▸ low
    · have binds : token.kind ∈ operatorsFrom least :=
        mem_operatorsFrom.2 ⟨precedence, found, Nat.le_of_not_lt high⟩
      refine Leaves.consume_bind (ne_eof_of_mem_operatorsFrom binds) ?_
      refine (expressionTakes (precedence + 1) depth rest).bind ?_
      rintro _ ⟨_, ⟨operand, rfl, factor⟩, front, rfl, above, -⟩
      refine (operationsTake least depth _).mono ?_
      rintro left ⟨behind, rfl, below, ended⟩
      refine ⟨token :: (operand ++ (front ++ behind)), by simp, .cons binds factor ?_, ended⟩
      exact (above.mono (by omega)).append below

/-- A factor that returns is a single token, or what it opens has been closed. -/
theorem factorTakes_succ (expressionTakes : ExpressionTakes steps)
    (factorTakes : FactorTakes steps) : FactorTakes (steps + 1) := by
  intro depth tokens
  refine Leaves.of_cons ?_
  rintro token rest rfl
  refine Leaves.nestFactor (fun _ => trivial) fun free => Leaves.peek_bind ?_
  refine Leaves.ite (fun single => ?_) fun _ => Leaves.ite (fun parenthesis => ?_) fun _ =>
    Leaves.ite (fun sign => ?_) fun _ => Leaves.noViableAlternative _ _ trivial
  · have operand : token.kind ∈ operandKinds := by simpa [operandKinds] using single
    refine Leaves.consume_bind (ne_of_mem_of_not_mem operand (by decide)) (Leaves.pure ?_)
    exact ⟨[token], rfl, 1, by omega, .operand operand⟩
  · refine Leaves.consume_bind (by rw [parenthesis]; decide) ?_
    refine (expressionTakes 0 (depth + 1) rest).bind ?_
    rintro _ ⟨_, ⟨operand, rfl, inner, fits, factor⟩, chain, rfl, chained, -⟩
    refine Leaves.of_cons ?_
    rintro last left rfl
    refine Leaves.matchKind_bind (by decide) (fun closed => Leaves.pure ?_) fun _ => trivial
    obtain ⟨nesting, bound, derives⟩ := chained.derives factor.factor fits
    refine ⟨token :: (operand ++ chain ++ [last]), by simp, nesting + 1, by omega, ?_⟩
    simpa [parenthesis, closed] using derives.group
  · refine Leaves.consume_bind (by rw [sign]; decide) ?_
    refine (factorTakes (depth + 1) rest).mono ?_
    rintro left ⟨operand, rfl, nesting, fits, factor⟩
    refine ⟨token :: operand, rfl, nesting + 1, by omega, ?_⟩
    simpa [sign] using factor.negation

/-- However many steps there are, what returns has taken what it is to take. -/
theorem expressionTakes (steps : Nat) :
    ExpressionTakes steps ∧ OperationsTake steps ∧ FactorTakes steps := by
  induction steps with
  | zero => exact ⟨fun _ _ _ _ _ => trivial, fun _ _ _ _ _ => trivial, fun _ _ _ _ => trivial⟩
  | succ steps ih =>
    obtain ⟨expression, operations, factor⟩ := ih
    exact ⟨expressionTakes_succ operations factor, operationsTake_succ expression operations,
      factorTakes_succ expression factor⟩

/-! ## Expressions that return -/

/-- With so many steps, an expression returns where there is one to take. -/
def ExpressionReturns (steps : Nat) : Prop :=
  ∀ (least depth : Nat) (tokens rest : List Token), TakesExpression least depth tokens rest →
    2 * tokens.length + 2 ≤ steps →
    Leaves (expression least steps) depth tokens (· = rest) False

/-- With so many steps, operators return where there is a chain to take. -/
def OperationsReturn (steps : Nat) : Prop :=
  ∀ (least depth : Nat) (tokens rest : List Token), TakesChain least depth tokens rest →
    2 * tokens.length + 1 ≤ steps →
    Leaves (operations least steps) depth tokens (· = rest) False

/-- With so many steps, a factor returns where there is one to take. -/
def FactorReturns (steps : Nat) : Prop :=
  ∀ (depth : Nat) (tokens rest : List Token), TakesFactor depth tokens rest →
    2 * tokens.length + 1 ≤ steps → Leaves (factor steps) depth tokens (· = rest) False

/-- An expression returns with its factor and the chain behind it. -/
theorem expressionReturns_succ (operationsReturn : OperationsReturn steps)
    (factorReturns : FactorReturns steps) : ExpressionReturns (steps + 1) := by
  intro least depth tokens rest takes enough
  obtain ⟨middle, factor, chain⟩ := takes
  have shorter : middle.length ≤ tokens.length := by
    obtain ⟨operand, rfl, -⟩ := factor
    simp
  refine (factorReturns depth tokens middle factor (by omega)).bind ?_
  rintro left rfl
  exact operationsReturn least depth left rest chain (by omega)

/-- Operators return with their chain: each right operand takes the part of it that binds closer. -/
theorem operationsReturn_succ (expressionReturns : ExpressionReturns steps)
    (operationsReturn : OperationsReturn steps) : OperationsReturn (steps + 1) := by
  rintro least depth _ rest ⟨chain, rfl, chained, ended⟩ enough
  cases chained with
  | nil =>
    refine Leaves.of_cons ?_
    rintro token left rfl
    refine Leaves.peek_bind ?_
    have low : Ended least token.kind := ended token rfl
    cases found : precedence? token.kind with
    | none => exact Leaves.pure rfl
    | some precedence =>
      exact Leaves.ite (fun _ => Leaves.pure rfl) fun high => absurd (low precedence found) high
  | @cons operator operand further binds factor chained =>
    obtain ⟨precedence, found, high⟩ := mem_operatorsFrom.1 binds
    refine Leaves.peek_bind ?_
    simp only [found]
    refine Leaves.ite (fun low => absurd low (Nat.not_lt_of_le high)) fun _ => ?_
    refine Leaves.consume_bind (ne_eof_of_mem_operatorsFrom binds) ?_
    obtain ⟨front, behind, rfl, above, below, closer⟩ := chained.split (precedence + 1)
    have stops : ∀ next ∈ (behind ++ rest).head?, Ended (precedence + 1) next.kind := by
      cases behind with
      | nil => exact fun next first => (ended next first).mono (by omega)
      | cons first behind => exact closer
    have right : TakesExpression (precedence + 1) depth (operand ++ (front ++ behind) ++ rest)
        (behind ++ rest) :=
      ⟨front ++ (behind ++ rest), ⟨operand, by simp, factor⟩, front, rfl, above, stops⟩
    simp only [List.cons_append, List.length_cons, List.length_append] at enough
    refine (expressionReturns (precedence + 1) depth _ _ right
      (by simp only [List.length_append]; omega)).bind ?_
    rintro _ rfl
    exact operationsReturn least depth _ rest ⟨behind, rfl, below, ended⟩
      (by simp only [List.length_append]; omega)

/-- A factor returns with what it opens. -/
theorem factorReturns_succ (expressionReturns : ExpressionReturns steps)
    (factorReturns : FactorReturns steps) : FactorReturns (steps + 1) := by
  rintro depth _ rest ⟨operand, rfl, factor⟩ enough
  obtain ⟨less, room, shape⟩ := factor.cases
  have inside : less = maxDepth - (depth + 1) := by omega
  subst inside
  have full (deep : maxDepth ≤ depth) : False := by omega
  rcases shape with ⟨token, rfl, single⟩ | ⟨first, value, last, rfl, opened, closed, inner⟩ |
    ⟨sign, inner, rfl, minus, factor⟩
  · refine Leaves.nestFactor full fun _ => Leaves.peek_bind ?_
    have chosen : token.kind = numberKind ∨ token.kind = nameKind ∨ token.kind = stringKind := by
      simpa [operandKinds] using single
    rw [if_pos chosen]
    exact Leaves.consume_bind (ne_of_mem_of_not_mem single (by decide)) (Leaves.pure rfl)
  · refine Leaves.nestFactor full fun _ => Leaves.peek_bind ?_
    rw [opened, if_neg (by decide), if_pos rfl]
    refine Leaves.consume_bind (by rw [opened]; decide) ?_
    obtain ⟨nesting, fits, derives⟩ := inner
    obtain ⟨operand, chain, rfl, factor, chained⟩ := exists_chain_of_derives derives rfl fits rfl
    have ended : Ended 0 last.kind := by
      rw [closed, ended_iff]
      decide
    have value : TakesExpression 0 (depth + 1) (operand ++ chain ++ [last] ++ rest)
        (last :: rest) :=
      ⟨chain ++ last :: rest, ⟨operand, by simp, factor⟩, chain, rfl, chained, by simpa using ended⟩
    simp only [List.cons_append, List.length_cons] at enough
    refine (expressionReturns 0 (depth + 1) _ _ value (by omega)).bind ?_
    rintro _ rfl
    exact Leaves.matchKind_bind (by decide) (fun _ => Leaves.pure rfl) (absurd closed)
  · refine Leaves.nestFactor full fun _ => Leaves.peek_bind ?_
    rw [minus, if_neg (by decide), if_neg (by decide), if_pos rfl]
    refine Leaves.consume_bind (by rw [minus]; decide) ?_
    simp only [List.cons_append, List.length_cons] at enough
    exact factorReturns (depth + 1) (inner ++ rest) rest ⟨inner, rfl, factor⟩ (by omega)

/-- Twice as many steps as there are tokens to come, and two more, are enough. -/
theorem expressionReturns (steps : Nat) :
    ExpressionReturns steps ∧ OperationsReturn steps ∧ FactorReturns steps := by
  induction steps with
  | zero =>
    refine ⟨?_, ?_, ?_⟩
    · intro _ _ _ _ _ enough
      omega
    · intro _ _ _ _ _ enough
      omega
    · intro _ _ _ _ enough
      omega
  | succ steps ih =>
    obtain ⟨expression, operations, factor⟩ := ih
    exact ⟨expressionReturns_succ operations factor, operationsReturn_succ expression operations,
      factorReturns_succ expression factor⟩

/-- An expression of at least a precedence, run under the fail-fast strategy in any state of a token
buffer. When it returns, it has taken one factor and a chain of operators of at least that
precedence, and stands before the end, before no operator, or before one of a lower precedence. No
other factor and no longer chain stands in front of the same tokens. With the bound on its steps
that is made from the outstanding input, it returns wherever there is such a factor with such a
chain and room for all factors. -/
theorem expression_takes_longest_chain (source : TokenSource) (queries : List TokenBuffer.Query)
    (vocabulary : List String) (depth : Nat) :
    let start : Recognizer :=
      ⟨(TokenBuffer.ofSource source).after queries, .failFast, vocabulary, depth⟩
    ∃ tokens, tokens <:+ source.visible ∧ start.input.Shows tokens ∧ ∀ least : Nat,
      (∀ kind, kind ∈ operatorsFrom least ↔
        ∃ precedence, precedence? kind = some precedence ∧ least ≤ precedence) ∧
      (∀ steps after, expression least steps start = .ok () after →
        ∃ operand chain next left, tokens = operand ++ chain ++ next :: left ∧
          IsFactor (maxDepth - depth) operand ∧ Chain least (maxDepth - depth) chain ∧
          (next.isEof = true ∨ next.kind ∉ operatorKinds ∨
            ∃ precedence < least, precedence? next.kind = some precedence) ∧
          after.Stands .failFast depth (next :: left) ∧
          ∀ most other further rest, tokens = other ++ further ++ rest → IsFactor most other →
            Chain least most further → other = operand ∧ further <+: chain) ∧
      ((∃ rest, TakesExpression least depth tokens rest) →
        ∃ after, (bound >>= expression least) start = .ok () after) := by
  intro start
  obtain ⟨tokens, suffix, shown⟩ := (TokenBuffer.shows_ofSource source).after queries
  have stands : start.Stands .failFast depth tokens := ⟨rfl, rfl, shown⟩
  refine ⟨tokens, suffix, shown, fun least => ⟨fun _ => mem_operatorsFrom, ?_, ?_⟩⟩
  · intro steps after returned
    have ends := (expressionTakes steps).1 least depth tokens start stands
    simp only [Ends, returned] at ends
    obtain ⟨_, ⟨_, ⟨operand, split, factor⟩, chain, rfl, chained, ended⟩, stood⟩ := ends
    obtain ⟨next, left, rfl⟩ := stood.exists_cons
    have stop : Ended least next.kind := ended next rfl
    refine ⟨operand, chain, next, left, by simpa using split, factor, chained, .inr ?_, stood, ?_⟩
    · cases found : precedence? next.kind with
      | none => exact .inl (precedence?_eq_none_iff.1 found)
      | some precedence => exact .inr ⟨precedence, stop precedence found, rfl⟩
    · intro most other further rest again factor' chained'
      rw [split, List.append_assoc] at again
      obtain ⟨rfl, same⟩ := factor.unique factor' again
      exact ⟨rfl, chained'.prefix_of_ended chained same ended⟩
  · rintro ⟨rest, takes⟩
    have room : tokens.length ≤ start.outstanding := shown.length_le
    have ends : (bound >>= expression least).Ends start
        (fun _ after => ∃ left, left = rest ∧ after.Stands .failFast depth left)
        fun _ _ => False :=
      ends_bound_bind
        ((expressionReturns _).1 least depth tokens rest takes (by omega) start stands)
    unfold Ends at ends
    generalize (bound >>= expression least) start = run at ends
    cases run with
    | ok value after => exact ⟨after, rfl⟩
    | error failure after => exact ends.elim

/-- A product with a summand behind it: an expression of precedence two leaves the sum. -/
example :
    let script := TokenSource.script "sum" ([numberKind, starKind, numberKind, plusKind,
      numberKind].map fun kind => .new kind "" .start)
    let run := (bound >>= expression 2) ⟨.ofSource script, .failFast, vocabulary, 0⟩
    ((left run).input.lookahead 1).1.kind = plusKind := by
  decide +kernel

end Conformance.Snafu
