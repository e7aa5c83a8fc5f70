import Conformance.Recognition.Strategy

/-!
# Recognizers

A recognizer is what the rules of a parser work on: the input, the error strategy, the display
names of the terminals and the number of open nested constructs. A rule is a computation that
changes a recognizer and may fail; the recognizer it leaves behind is kept when it fails.
-/

namespace Conformance

/-- The state that the rules of a parser share. -/
structure Recognizer where
  /-- The tokens to come. -/
  input : TokenBuffer
  /-- What is done at errors. -/
  strategy : Strategy
  /-- The display names of the kinds from zero on. -/
  vocabulary : List String
  /-- The nested constructs that are open. -/
  depth : Nat

/-- A computation of a parser. -/
abbrev Rule := EStateM RuleFailure Recognizer

namespace Recognizer

/-- The recognizer at the start of an input, which repairs errors until it is told otherwise. -/
def ofInput (vocabulary : List String) (input : TokenBuffer) : Recognizer :=
  ⟨input, Strategy.recover, vocabulary, 0⟩

/-- A bound on the tokens that a rule can still consume. -/
def outstanding (recognizer : Recognizer) : Nat :=
  recognizer.input.capacity - recognizer.input.place

/-- The display name of a kind; a kind outside the vocabulary shows its number. -/
def displayName (vocabulary : List String) (kind : Kind) : String :=
  if kind = .eof then "<EOF>"
  else
    match kind with
    | .ofNat number => vocabulary[number]?.getD ("<" ++ toString kind ++ ">")
    | .negSucc _ => "<" ++ toString kind ++ ">"

/-- The description of an expectation: one kind by its name, several as a set. -/
def describe (vocabulary : List String) : List Kind → String
  | [kind] => displayName vocabulary kind
  | kinds => "\x7b" ++ ", ".intercalate (kinds.map (displayName vocabulary)) ++ "\x7d"

/-- The visible token `offset` places ahead. -/
def lookahead (offset : Nat) : Rule Token := fun recognizer =>
  let (token, input) := recognizer.input.lookahead offset
  .ok token { recognizer with input }

/-- The kind of the next visible token. -/
def peek : Rule Kind :=
  Token.kind <$> lookahead 1

/-- Consume the next visible token; the end token stays. -/
def consume : Rule Token := fun recognizer =>
  let (token, input) := recognizer.input.consume
  .ok token { recognizer with input }

/-- The result of a repair, with the strategy and the input that it leaves. -/
def settle {α : Type} (recognizer : Recognizer) :
    Except RuleFailure α × Strategy × TokenBuffer → EStateM.Result RuleFailure Recognizer α
  | (.ok value, strategy, input) => .ok value { recognizer with strategy, input }
  | (.error failure, strategy, input) => .error failure { recognizer with strategy, input }

/-- The next token is due to be of one kind: consume it, or leave the mismatch to the strategy. -/
def matchKind (kind : Kind) : Rule Token := do
  let token ← lookahead 1
  if token.kind = kind then
    consume
  else fun recognizer =>
    let error : RecognitionError :=
      ⟨.mismatch (describe recognizer.vocabulary [kind]), token, [kind]⟩
    recognizer.settle (recognizer.strategy.repairToken recognizer.input error)

/-- No alternative of a decision fits the next token. `expected` lists the kinds that start one and
`follow` the kinds on which the enclosing rule can resume. -/
def noViableAlternative (expected follow : List Kind) : Rule Unit := do
  let token ← lookahead 1
  fun recognizer =>
    let cause : RecognitionError.Cause :=
      if token.isEof || expected.isEmpty then .noViableAlternative
      else .mismatch (describe recognizer.vocabulary expected)
    recognizer.settle
      (recognizer.strategy.repairDecision recognizer.input ⟨cause, token, expected⟩ follow)

/-- Run a rule inside a nested construct, which is closed however the rule ends. -/
def nested {α : Type} (body : Rule α) : Rule α := fun recognizer =>
  match body { recognizer with depth := recognizer.depth + 1 } with
  | .ok value after => .ok value { after with depth := after.depth - 1 }
  | .error failure after => .error failure { after with depth := after.depth - 1 }

end Recognizer

end Conformance
