import Conformance.Log.Event

/-!
# The journal of a computation

A journaled computation leaves the events of its course behind, in order. While a source is worked
on, its name is the current file: an event that does not name a file itself is marked with it. The
journal keeps every event; which of them are shown is decided by the reader of the journal.
-/

namespace Conformance.Log

/-- The events so far and the file that is worked on. -/
structure Journal where
  /-- The events, in order. -/
  events : Array Event
  /-- The current file. -/
  file : Option String
  deriving Repr, Inhabited

/-- The journal before the first event. -/
def Journal.empty : Journal := ⟨#[], none⟩

/-- An event with its context and, unless it names a file itself, the current file. -/
def Journal.complete (journal : Journal) (event : Event) (context : List (String × String)) :
    Event :=
  let event := event.withContexts context
  match journal.file, event.context? "file" with
  | some file, none => event.withContext "file" file
  | _, _ => event

/-- A computation that keeps a journal. -/
abbrev Journaled := StateM Journal

/-- A computation that keeps a journal and may fail; what it entered before stays. -/
abbrev Attempt (ε : Type) := ExceptT ε Journaled

/-- An outcome that leaves the journal as it is. -/
def attempt {ε α : Type} (outcome : Except ε α) : Attempt ε α :=
  ExceptT.mk (pure outcome)

/-- Enter an event with its context. -/
def emit (event : Event) (context : List (String × String)) : Journaled Unit :=
  modify fun journal =>
    { journal with events := journal.events.push (journal.complete event context) }

/-- Make a file the current one. -/
def setFile (file : String) : Journaled Unit :=
  modify fun journal => { journal with file := some file }

/-- Work on no file. -/
def clearFile : Journaled Unit :=
  modify fun journal => { journal with file := none }

/-- Compute with a current file; afterwards there is none. -/
def withFile {α : Type} (file : String) (body : Journaled α) : Journaled α := do
  setFile file
  let value ← body
  clearFile
  return value

/-- An event that is entered comes after those of the journal. -/
@[simp] theorem events_emit (event : Event) (context : List (String × String)) (journal : Journal) :
    ((emit event context).run journal).2.events =
      journal.events.push (journal.complete event context) := rfl

/-- Entering an event leaves the current file as it is. -/
@[simp] theorem file_emit (event : Event) (context : List (String × String)) (journal : Journal) :
    ((emit event context).run journal).2.file = journal.file := rfl

/-- After a computation with a current file, no file is current. -/
@[simp] theorem file_withFile {α : Type} (file : String) (body : Journaled α) (journal : Journal) :
    ((withFile file body).run journal).2.file = none := rfl

end Conformance.Log
