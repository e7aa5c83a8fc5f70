import Conformance.Log.Preferences
import Conformance.Log.Service

/-!
# Transcripts

A transcript is what a program writes: texts on the standard output and texts on the standard
error, each with a line break after it. Events of the log that are failures go to the standard
error, and all others to the standard output. Each event has the time at which it came up, whether
it is shown or not.
-/

namespace Conformance

/-- What a program writes. -/
structure Transcript where
  /-- The texts on the standard output. -/
  out : List String
  /-- The texts on the standard error. -/
  err : List String
  deriving Repr, DecidableEq, Inhabited

namespace Transcript

/-- Nothing is written. -/
def empty : Transcript := ⟨[], []⟩

/-- One transcript after the other. -/
def append (first second : Transcript) : Transcript :=
  ⟨first.out ++ second.out, first.err ++ second.err⟩

instance : Append Transcript := ⟨append⟩

/-- A text on the standard output. -/
def ofOut (text : String) : Transcript := ⟨[text], []⟩

/-- A text on the standard error. -/
def ofErr (text : String) : Transcript := ⟨[], [text]⟩

/-- Texts with a line break after each. -/
def withBreaks (texts : List String) : String :=
  String.join (texts.map (· ++ "\n"))

/-- What stands on the standard output. -/
def outText (transcript : Transcript) : String :=
  withBreaks transcript.out

/-- What stands on the standard error. -/
def errText (transcript : Transcript) : String :=
  withBreaks transcript.err

/-- Events with the times at which they come up, the first of them at a look at the clock. -/
def timed (clock : Clock) (look : Nat) (events : List Log.Event) : List (Log.Event × Timestamp) :=
  (events.zipIdx look).map fun (event, look) => (event, clock look)

/-- How an event is written that came up at a time. -/
def written (preferences : Log.Preferences) : Log.Event × Timestamp → String
  | (event, time) => if preferences.structured then event.jsonLine time else event.line

/-- What is written of events, the first of which comes up at a look at the clock. -/
def ofEvents (preferences : Log.Preferences) (clock : Clock) (look : Nat)
    (events : List Log.Event) : Transcript :=
  let service := Log.Service.ofLevel preferences.least
  let kept := (timed clock look events).filter fun (event, _) => service.keeps event.level
  ⟨(kept.filter fun (event, _) => !event.isError).map (written preferences),
    (kept.filter fun (event, _) => event.isError).map (written preferences)⟩

/-- The standard output of two transcripts is that of one after the other. -/
@[simp] theorem out_append (first second : Transcript) :
    (first ++ second).out = first.out ++ second.out := rfl

/-- And so is the standard error. -/
@[simp] theorem err_append (first second : Transcript) :
    (first ++ second).err = first.err ++ second.err := rfl

end Transcript

end Conformance
