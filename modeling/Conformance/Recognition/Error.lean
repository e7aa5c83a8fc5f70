import Conformance.Token.Basic

/-!
# Recognition errors and failures

A recognition error is a point where the input leaves the grammar: the token found there and the
kinds that would have been accepted. A rule that does not return normally was cancelled by such an
error, failed for a reason of its own, or crashed.
-/

namespace Conformance

/-- How an input left the grammar. -/
inductive RecognitionError.Cause where
  /-- Another token stood where one of the described tokens was due. -/
  | mismatch (description : String)
  /-- No alternative of a decision could start. -/
  | noViableAlternative
  deriving Repr, DecidableEq, Inhabited

/-- A point where an input left the grammar. -/
structure RecognitionError where
  /-- What went wrong there. -/
  cause : RecognitionError.Cause
  /-- The token found. -/
  offending : Token
  /-- The kinds that would have been accepted. -/
  expected : List Kind
  deriving Repr, DecidableEq, Inhabited

namespace RecognitionError

/-- The place and the reason, on one line. -/
def message (error : RecognitionError) : String :=
  let place :=
    "line " ++ toString error.offending.position.line ++ ":" ++
      toString error.offending.position.column
  match error.cause with
  | .mismatch description =>
    place ++ " mismatched input " ++ error.offending.display ++ " expecting " ++ description
  | .noViableAlternative =>
    place ++ " no viable alternative at input " ++ error.offending.display

end RecognitionError

/-- What a computation that broke off left behind: a message, or something that is no text. -/
inductive Crash where
  /-- A message was left. -/
  | message (text : String)
  /-- Nothing readable was left. -/
  | unreadable
  deriving Repr, DecidableEq, Inhabited

/-- The message of a crash. -/
def Crash.text : Crash → String
  | .message text => text
  | .unreadable => "unknown panic payload"

/-- How a rule ends without returning normally. -/
inductive RuleFailure where
  /-- The error strategy gave the input up at an error. -/
  | cancelled (cause : RecognitionError)
  /-- The rule gave up for a reason of its own. -/
  | internal (message : String)
  /-- The rule broke off. -/
  | crashed (crash : Crash)
  deriving Repr, DecidableEq, Inhabited

/-- The text of a failure. -/
def RuleFailure.message : RuleFailure → String
  | .cancelled cause => "parse cancelled: " ++ cause.message
  | .internal message => message
  | .crashed crash => crash.text

end Conformance
