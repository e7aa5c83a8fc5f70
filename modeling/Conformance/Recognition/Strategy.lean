import Conformance.Recognition.Error
import Conformance.Token.Buffer

/-!
# Error strategies

A strategy decides what happens at a recognition error. The fail-fast strategy cancels the rule and
leaves the input where it is. The recovering strategy reports the error and repairs the input: for
one missing token it drops a superfluous token or makes the missing one up, and for a decision
without a viable alternative it skips to a token on which the enclosing rule can resume.
-/

namespace Conformance

/-- What is done at recognition errors, and the errors reported so far. -/
inductive Strategy where
  /-- The first error ends the rule. -/
  | failFast
  /-- Errors are reported, in this order, and repaired. -/
  | recovering (reported : Array RecognitionError)
  deriving Inhabited

namespace Strategy

/-- The recovering strategy before its first error. -/
def recover : Strategy := .recovering #[]

/-- The errors reported so far, in order. -/
def reported : Strategy → Array RecognitionError
  | .failFast => #[]
  | .recovering reported => reported

/-- The token made up in the place of a missing one. -/
def missing (kind : Kind) (position : Position) : Token :=
  Token.new kind "<missing>" position

/-- The visible token on which a buffer can resume, the first one that ends the input or is in
`follow`, found within `fuel` tokens. -/
def resume (follow : List Kind) : Nat → TokenBuffer → TokenBuffer
  | 0, input => input
  | fuel + 1, input =>
    let (token, input) := input.lookahead 1
    if token.isEof || follow.contains token.kind then input
    else resume follow fuel input.consume.2

/-- A single token is due and another one is there. The answer is the token to take for it. -/
def repairToken (strategy : Strategy) (input : TokenBuffer) (error : RecognitionError) :
    Except RuleFailure Token × Strategy × TokenBuffer :=
  match strategy with
  | .failFast => (.error (.cancelled error), .failFast, input)
  | .recovering reported =>
    let strategy := .recovering (reported.push error)
    let (second, ahead) :=
      if error.offending.isEof then (none, input)
      else
        let (token, ahead) := input.lookahead 2
        (some token, ahead)
    if second.any (error.expected.contains ·.kind) then
      let (token, input) := ahead.consume.2.consume
      (.ok token, strategy, input)
    else
      let kind := error.expected.headD error.offending.kind
      (.ok (missing kind error.offending.position), strategy, ahead)

/-- No alternative of a decision fits. The rule goes on at a token of `follow` or at the end. -/
def repairDecision (strategy : Strategy) (input : TokenBuffer) (error : RecognitionError)
    (follow : List Kind) : Except RuleFailure Unit × Strategy × TokenBuffer :=
  match strategy with
  | .failFast => (.error (.cancelled error), .failFast, input)
  | .recovering reported =>
    (.ok (), .recovering (reported.push error), resume follow (input.capacity + 1) input)

end Strategy

end Conformance
