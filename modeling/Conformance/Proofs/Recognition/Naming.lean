import Conformance.Proofs.Recognition.Built
import Conformance.Recognition.Parser

/-!
# Recognition knows no names

The name of a source is carried along and never read. Under another name a built rule does the same
with the same tokens, returns the same and fails with the same.
-/

namespace Conformance

/-! ## Tokens -/

namespace TokenSource

/-- The source under another name. -/
def named (source : TokenSource) (name : String) : TokenSource :=
  match source with
  | .lexer grammar input => .lexer grammar { input with name }
  | .script _ tokens => .script name tokens

variable {source : TokenSource} {name : String}

/-- The next token is the same under every name. -/
theorem next_named : (source.named name).next = (source.next.1, source.next.2.named name) := by
  match source with
  | .lexer grammar input =>
    cases going : input.rest with
    | nil => simp [named, next, LexicalGrammar.next, going]
    | cons c rest => simp [named, next, LexicalGrammar.next, going, CharStream.take]
  | .script _ [] => rfl
  | .script _ (_ :: _) => rfl

/-- As much is left under every name. -/
@[simp] theorem remaining_named : (source.named name).remaining = source.remaining := by
  cases source <;> rfl

end TokenSource

namespace TokenBuffer

/-- The buffer over a source under another name. -/
def named (buffer : TokenBuffer) (name : String) : TokenBuffer :=
  { buffer with source := buffer.source.named name }

variable {buffer : TokenBuffer} {name : String}

/-- The same tokens are held under every name. -/
@[simp] theorem fetched_named : (buffer.named name).fetched = buffer.fetched := rfl

/-- The place is the same under every name. -/
@[simp] theorem place_named : (buffer.named name).place = buffer.place := rfl

/-- The end is held under every name or under none. -/
@[simp] theorem isFilled_named : (buffer.named name).isFilled = buffer.isFilled := rfl

/-- A number leads to the same token under every name. -/
@[simp] theorem token_named (number : Nat) :
    (buffer.named name).token number = buffer.token number := rfl

/-- The bound on the tokens is the same under every name. -/
@[simp] theorem capacity_named : (buffer.named name).capacity = buffer.capacity := by
  have remaining : (buffer.named name).source.remaining = buffer.source.remaining :=
    TokenSource.remaining_named
  rw [capacity, remaining, isFilled_named, fetched_named, capacity]

/-- The next token is fetched under every name. -/
theorem fetch_named : (buffer.named name).fetch = buffer.fetch.named name := by
  simp only [fetch, named, TokenSource.next_named]

/-- Tokens are fetched up to a number under every name. -/
theorem reach_named (number : Nat) :
    (buffer.named name).reach number = (buffer.reach number).named name := by
  fun_induction reach buffer number with
  | case1 buffer short ih =>
    rw [reach, fetched_named, isFilled_named, if_pos short, fetch_named, ih]
  | case2 buffer reached =>
    rw [reach, fetched_named, isFilled_named, if_neg reached]

/-- Seeking the first visible token, by the token with the number. -/
theorem nextVisible_eq (buffer : TokenBuffer) (number : Nat) :
    buffer.nextVisible number =
      match (buffer.reach number).fetched[number]? with
      | none => ((buffer.reach number).fetched.size - 1, buffer.reach number)
      | some token =>
        if token.isHidden then (buffer.reach number).nextVisible (number + 1)
        else (number, buffer.reach number) := by
  rw [nextVisible]
  split
  · rename_i absent
    rw [absent]
  · rename_i token held
    rw [held]

/-- The number of the first visible token is the same under every name. -/
theorem nextVisible_named (number : Nat) :
    (buffer.named name).nextVisible number =
      ((buffer.nextVisible number).1, (buffer.nextVisible number).2.named name) := by
  fun_induction nextVisible buffer number with
  | case1 buffer number reached absent =>
    rw [nextVisible_eq, reach_named, fetched_named, absent]
  | case2 buffer number reached token held hidden ih =>
    rw [nextVisible_eq, reach_named, fetched_named, held]
    simp only [if_pos hidden]
    exact ih
  | case3 buffer number reached token held visible =>
    rw [nextVisible_eq, reach_named, fetched_named, held]
    simp only [if_neg visible]
    rfl

/-- The number of a token further on is the same under every name. -/
theorem forward_named (number steps : Nat) :
    (buffer.named name).forward number steps =
      ((buffer.forward number steps).1, (buffer.forward number steps).2.named name) := by
  induction steps generalizing buffer number with
  | zero => rfl
  | succ steps ih =>
    unfold forward
    rw [token_named, nextVisible_named]
    by_cases ends : (buffer.token number).isEof = true
    · rw [if_pos ends, if_pos ends]
    · rw [if_neg ends, if_neg ends]
      exact ih _

/-- The token ahead is the same under every name. -/
theorem lookahead_named (offset : Nat) :
    (buffer.named name).lookahead offset =
      ((buffer.lookahead offset).1, (buffer.lookahead offset).2.named name) := by
  unfold lookahead
  rw [place_named, nextVisible_named]
  simp only [forward_named, token_named]

/-- The token consumed is the same under every name. -/
theorem consume_named :
    (buffer.named name).consume = (buffer.consume.1, buffer.consume.2.named name) := by
  unfold consume
  rw [place_named, nextVisible_named]
  generalize buffer.nextVisible buffer.place = found
  obtain ⟨number, reached⟩ := found
  change (reached.token number, if (reached.token number).isEof = true then reached.named name
    else { reached.named name with place := number + 1 }) = _
  by_cases ends : (reached.token number).isEof = true
  · simp only [if_pos ends]
  · simp only [if_neg ends]
    rfl

end TokenBuffer

/-! ## Repairs -/

namespace Strategy

variable {input : TokenBuffer} {name : String}

/-- The token on which a buffer resumes is the same under every name. -/
theorem resume_named (follow : List Kind) (fuel : Nat) :
    resume follow fuel (input.named name) = (resume follow fuel input).named name := by
  induction fuel generalizing input with
  | zero => rfl
  | succ fuel ih =>
    unfold resume
    rw [TokenBuffer.lookahead_named]
    generalize input.lookahead 1 = ahead
    obtain ⟨token, reached⟩ := ahead
    change (if (token.isEof || follow.contains token.kind) = true then reached.named name
      else resume follow fuel (reached.named name).consume.2) = _
    by_cases resumes : (token.isEof || follow.contains token.kind) = true
    · simp only [if_pos resumes]
    · simp only [if_neg resumes, TokenBuffer.consume_named, ih]

/-- A token due is repaired alike under every name. -/
theorem repairToken_named (strategy : Strategy) (error : RecognitionError) :
    strategy.repairToken (input.named name) error =
      ((strategy.repairToken input error).1, (strategy.repairToken input error).2.1,
        (strategy.repairToken input error).2.2.named name) := by
  cases strategy with
  | failFast => rfl
  | recovering reported =>
    unfold repairToken
    by_cases ends : error.offending.isEof = true
    · simp only [if_pos ends, Option.any_none, Bool.false_eq_true, if_false]
    · simp only [if_neg ends, TokenBuffer.lookahead_named, Option.any_some]
      by_cases second : (error.expected.contains (input.lookahead 2).1.kind) = true
      · simp only [if_pos second, TokenBuffer.consume_named]
      · simp only [if_neg second]

/-- A decision is repaired alike under every name. -/
theorem repairDecision_named (strategy : Strategy) (error : RecognitionError)
    (follow : List Kind) :
    strategy.repairDecision (input.named name) error follow =
      ((strategy.repairDecision input error follow).1,
        (strategy.repairDecision input error follow).2.1,
        (strategy.repairDecision input error follow).2.2.named name) := by
  cases strategy with
  | failFast => rfl
  | recovering reported =>
    simp only [repairDecision, TokenBuffer.capacity_named, resume_named]

end Strategy

/-! ## Rules -/

/-- The recognizer whose source has another name. -/
def Recognizer.named (recognizer : Recognizer) (name : String) : Recognizer :=
  { recognizer with input := recognizer.input.named name }

/-- As much is outstanding under every name. -/
theorem Recognizer.outstanding_named (recognizer : Recognizer) (name : String) :
    (recognizer.named name).outstanding = recognizer.outstanding := by
  have capacity : (recognizer.named name).input.capacity = recognizer.input.capacity :=
    TokenBuffer.capacity_named
  rw [outstanding, capacity, outstanding]
  rfl

namespace Rule

variable {α β : Type}

/-- What a run answers, and the recognizer it leaves under another name. -/
def named (result : EStateM.Result RuleFailure Recognizer α) (name : String) :
    EStateM.Result RuleFailure Recognizer α :=
  match result with
  | .ok value recognizer => .ok value (recognizer.named name)
  | .error failure recognizer => .error failure (recognizer.named name)

/-- A rule does not see the name of its source. -/
def Nameless (rule : Rule α) : Prop :=
  ∀ recognizer name, rule (recognizer.named name) = named (rule recognizer) name

namespace Nameless

/-- Rules one after the other do not see the name. -/
theorem bind {rule : Rule α} {next : α → Rule β} (first : rule.Nameless)
    (second : ∀ value, (next value).Nameless) : (rule >>= next).Nameless := by
  intro recognizer name
  change EStateM.bind rule next (recognizer.named name) =
    named (EStateM.bind rule next recognizer) name
  unfold EStateM.bind
  rw [first recognizer name]
  cases rule recognizer with
  | ok value after => exact second value after name
  | error failure after => rfl

/-- A nested construct does not see the name. -/
theorem nested {body : Rule α} (inner : body.Nameless) : (Recognizer.nested body).Nameless := by
  intro recognizer name
  have same := inner { recognizer with depth := recognizer.depth + 1 } name
  unfold Recognizer.nested
  change (match body (Recognizer.named { recognizer with depth := recognizer.depth + 1 } name) with
    | .ok value after => _
    | .error failure after => _) = _
  rw [same]
  cases body { recognizer with depth := recognizer.depth + 1 } with
  | ok value after => rfl
  | error failure after => rfl

/-- Looking ahead does not see the name. -/
theorem lookahead (offset : Nat) : (Recognizer.lookahead offset).Nameless := by
  intro recognizer name
  have same : (recognizer.named name).input.lookahead offset = _ :=
    TokenBuffer.lookahead_named offset
  unfold Recognizer.lookahead
  rw [same]
  rfl

/-- Consuming does not see the name. -/
theorem consume : Recognizer.consume.Nameless := by
  intro recognizer name
  have same : (recognizer.named name).input.consume = _ := TokenBuffer.consume_named
  unfold Recognizer.consume
  rw [same]
  rfl

/-- A repair that does not see the name makes a rule that does not see it. -/
theorem settle {repair : Recognizer → Except RuleFailure α × Strategy × TokenBuffer}
    (alike : ∀ (recognizer : Recognizer) (name : String), repair (recognizer.named name) =
      ((repair recognizer).1, (repair recognizer).2.1, (repair recognizer).2.2.named name)) :
    Nameless (fun recognizer => recognizer.settle (repair recognizer) : Rule α) := by
  intro recognizer name
  simp only [alike recognizer name]
  obtain ⟨answer, strategy, input⟩ := repair recognizer
  cases answer with
  | ok value => rfl
  | error failure => rfl

/-- A choice between rules that do not see the name does not see it. -/
theorem ite {condition : Prop} [Decidable condition] {rule other : Rule α}
    (chosen : rule.Nameless) (refused : other.Nameless) :
    (if condition then rule else other).Nameless := by
  by_cases holds : condition
  · rw [if_pos holds]
    exact chosen
  · rw [if_neg holds]
    exact refused

/-- Taking a token that is due does not see the name. -/
theorem matchKind (kind : Kind) : (Recognizer.matchKind kind).Nameless := by
  refine (lookahead 1).bind fun token => ite consume (settle fun recognizer name => ?_)
  exact Strategy.repairToken_named recognizer.strategy _

/-- Finding no viable alternative does not see the name. -/
theorem noViableAlternative (expected follow : List Kind) :
    (Recognizer.noViableAlternative expected follow).Nameless := by
  refine (lookahead 1).bind fun token => settle fun recognizer name => ?_
  exact Strategy.repairDecision_named recognizer.strategy _ follow

end Nameless

/-- A built rule does not see the name of its source. -/
theorem Built.nameless {rule : Rule α} (built : rule.Built) : rule.Nameless := by
  induction built with
  | pure value => exact fun _ _ => rfl
  | throw other => exact fun _ _ => rfl
  | bind _ _ first second => exact first.bind second
  | measure next _ second =>
    intro recognizer name
    change next recognizer.depth (recognizer.named name).outstanding (recognizer.named name) =
      named (next recognizer.depth recognizer.outstanding recognizer) name
    rw [Recognizer.outstanding_named]
    exact second _ _ recognizer name
  | nested _ inner => exact inner.nested
  | lookahead offset => exact .lookahead offset
  | consume => exact .consume
  | matchKind kind => exact .matchKind kind
  | noViableAlternative expected follow => exact .noViableAlternative expected follow

end Rule

/-! ## Parsers -/

namespace Parser

/-- The parser whose source has another name. -/
def named (parser : Parser) (name : String) : Parser :=
  { parser with state := parser.state.named name }

/-- A parser under another name has that name. -/
@[simp] theorem sourceName_named (parser : Parser) (name : String) :
    (parser.named name).sourceName = name := by
  change (parser.state.input.source.named name).name = name
  cases parser.state.input.source <;> rfl

/-- A call answers the same whatever the source is called. -/
theorem invoke_named (parser : Parser) {rule : String} (built : (parser.rule rule).Built)
    (name : String) : ((parser.named name).invoke rule).1 = (parser.invoke rule).1 := by
  unfold invoke named
  simp only [built.nameless parser.state name]
  cases parser.rule rule parser.state with
  | ok value state => rfl
  | error failure state => rfl

end Parser

end Conformance
