import Conformance.Proofs.Log.Outcome

/-!
# The course of a computation

A computation adds events to its journal and may change the current file, but it does not read what
was entered before. So the events that it adds, the file that it leaves and its outcome follow from
the file that is current at its start. A course states all of this, and the courses of the parts of
a computation are put together as the parts are.
-/

namespace Conformance.Log

/-! ## Events under a current file -/

namespace Event

variable {event : Event} {file : Option String} {context : List (String × String)}

/-- An event with its context, as it is entered under a current file or under none. -/
def marked (file : Option String) (event : Event) (context : List (String × String)) : Event :=
  Journal.complete ⟨#[], file⟩ event context

/-- An event is entered as it is, or with the current file. -/
theorem marked_eq_or (file : Option String) (event : Event) (context : List (String × String)) :
    event.marked file context = event.withContexts context ∨
      (event.withContexts context).context? "file" = none ∧
        ∃ current, event.marked file context =
          (event.withContexts context).withContext "file" current := by
  cases file with
  | none => exact .inl rfl
  | some current =>
    unfold marked Journal.complete
    cases named : (event.withContexts context).context? "file" with
    | none => exact .inr ⟨rfl, current, by simp only [named]⟩
    | some own => exact .inl (by simp only [named])

/-- Contexts change neither the level nor the code nor the message of an event. -/
theorem withContexts_keeps (event : Event) (context : List (String × String)) :
    (event.withContexts context).level = event.level ∧
      (event.withContexts context).code = event.code ∧
        (event.withContexts context).message = event.message := by
  induction context generalizing event with
  | nil => exact ⟨rfl, rfl, rfl⟩
  | cons entry context ih => exact ih (event.withContext entry.1 entry.2)

/-- The current file changes neither the level nor the code nor the message of an event. -/
theorem marked_keeps (file : Option String) (event : Event) (context : List (String × String)) :
    (event.marked file context).level = event.level ∧
      (event.marked file context).code = event.code ∧
        (event.marked file context).message = event.message := by
  have own := withContexts_keeps event context
  rcases marked_eq_or file event context with same | ⟨-, current, same⟩
  · rw [same]
    exact own
  · rw [same]
    exact own

/-- Entering an event keeps its level. -/
@[simp] theorem level_marked : (event.marked file context).level = event.level :=
  (marked_keeps file event context).1

/-- It keeps its code. -/
@[simp] theorem code_marked : (event.marked file context).code = event.code :=
  (marked_keeps file event context).2.1

/-- It keeps its message. -/
@[simp] theorem message_marked : (event.marked file context).message = event.message :=
  (marked_keeps file event context).2.2

/-- An event is a failure as it is entered just when it is one. -/
@[simp] theorem isError_marked : (event.marked file context).isError = event.isError := by
  rw [isError, isError, level_marked]

/-- It is a warning as it is entered just when it is one. -/
@[simp] theorem isWarning_marked : (event.marked file context).isWarning = event.isWarning := by
  rw [isWarning, isWarning, level_marked]

/-- Whatever file is current, an event says what its own context says. -/
theorem context?_marked {name value : String}
    (said : (event.withContexts context).context? name = some value) :
    (event.marked file context).context? name = some value := by
  rcases marked_eq_or file event context with same | ⟨unnamed, current, same⟩
  · rw [same]
    exact said
  · have other : "file" ≠ name := by
      intro same
      rw [← same, unnamed] at said
      cases said
    rw [same, context?, withContext, Keyed.find?_put_of_ne other]
    exact said

end Event

/-! ## Courses -/

namespace Attempt

variable {ε δ α β : Type} {body : Attempt ε α} {file between after : Option String}
  {events further : List Event} {outcome : Except ε α}

/-- Started under a current file, a computation adds events to its journal, leaves a current file
and has an outcome. -/
def Course (body : Attempt ε α) (file : Option String) (events : List Event)
    (after : Option String) (outcome : Except ε α) : Prop :=
  ∀ before, body.run.run ⟨before, file⟩ = (outcome, ⟨before ++ events.toArray, after⟩)

/-- Events added one list after the other are those of both lists. -/
theorem append_toArray_append (before : Array Event) (events further : List Event) :
    before ++ events.toArray ++ further.toArray = before ++ (events ++ further).toArray := by
  rw [Array.append_assoc, List.append_toArray events further]

namespace Course

/-- Returning adds nothing. -/
theorem pure (file : Option String) (value : α) :
    Course (Pure.pure value : Attempt ε α) file [] file (.ok value) := by
  intro before
  rw [Array.append_empty]
  rfl

/-- Failing adds nothing. -/
theorem throw (file : Option String) (error : ε) :
    Course (MonadExcept.throw error : Attempt ε α) file [] file (.error error) := by
  intro before
  rw [Array.append_empty]
  rfl

/-- An outcome that leaves the journal alone adds nothing. -/
theorem attempt (file : Option String) (outcome : Except ε α) :
    Course (Log.attempt outcome) file [] file outcome := by
  intro before
  rw [Array.append_empty]
  rfl

/-- An event before a computation is added before those of the computation. -/
theorem emit (course : body.Course file events after outcome) (event : Event)
    (context : List (String × String)) :
    Course (do Log.emit event context; body) file (event.marked file context :: events) after
      outcome := by
  intro before
  have rest := course (before.push (event.marked file context))
  rw [Array.push_eq_append] at rest
  have joined := append_toArray_append before [event.marked file context] events
  rw [joined] at rest
  exact rest

/-- One computation after the other adds the events of the first before those of the second. -/
theorem bind {next : α → Attempt ε β} {value : α} {final : Except ε β}
    (first : body.Course file events between (.ok value))
    (second : (next value).Course between further after final) :
    Course (body >>= next) file (events ++ further) after final := by
  intro before
  have rest := second (before ++ events.toArray)
  rw [append_toArray_append] at rest
  rw [run_bind, first before]
  exact rest

/-- Nothing comes after a computation that fails. -/
theorem bind_error {next : α → Attempt ε β} {error : ε}
    (first : body.Course file events after (.error error)) :
    Course (body >>= next) file events after (.error error) := by
  intro before
  rw [run_bind, first before]

/-- Saying an error in other words adds nothing. -/
theorem adapt (course : body.Course file events after outcome) (reword : ε → δ) :
    Course (body.adapt reword : Attempt δ α) file events after (outcome.mapError reword) := by
  intro before
  have ran := course before
  change ((body.run.run ⟨before, file⟩).1.mapError reword, (body.run.run ⟨before, file⟩).2) = _
  rw [ran]

/-- What looks at an outcome and goes on with it adds its events after those of the computation. -/
theorem follow {next : Except ε α → Journaled (Except δ β)} {final : Except δ β}
    (first : body.Course file events between outcome)
    (second : Course (ExceptT.mk (next outcome)) between further after final) :
    Course (ExceptT.mk (body.run >>= next)) file (events ++ further) after final := by
  intro before
  have ran := first before
  have rest := second (before ++ events.toArray)
  rw [append_toArray_append] at rest
  change (next (body.run.run ⟨before, file⟩).1).run (body.run.run ⟨before, file⟩).2 = _
  rw [ran]
  exact rest

/-- A computation whose courses all have one outcome yields it. -/
theorem yields {told : Option String → List Event} {left : Option String → Option String}
    (course : ∀ file, body.Course file (told file) (left file) outcome) : body.Yields outcome := by
  intro journal
  rw [course journal.file journal.events]

/-- Working on a file adds the events of the work under that file, and none is current after it,
whatever the outcome. -/
theorem withFile {name : String} (course : body.Course (some name) events after outcome)
    (file : Option String) :
    Course (ExceptT.mk (Log.withFile name body.run)) file events none outcome := by
  intro before
  have ran := course before
  change ((body.run.run ⟨before, some name⟩).1,
    (⟨(body.run.run ⟨before, some name⟩).2.events, none⟩ : Journal)) = _
  rw [ran]

end Course

/-! ## Accounts -/

/-- Started under a current file, a computation that returns enters what is told of its value and
leaves a file that is settled. One that fails enters a single failure, which reports its error. -/
def Accounts (body : Attempt ε α) (file settled : Option String) (outcome : Except ε α)
    (told : α → List Event → Prop) (reported : ε → Event → Prop) : Prop :=
  ∃ events after, body.Course file events after outcome ∧
    (∀ value, outcome = .ok value → after = settled ∧ told value events) ∧
    ∀ error, outcome = .error error → (after = file ∨ after = none) ∧
      ∃ own, events.filter Event.isError = [own] ∧ reported error own

namespace Accounts

variable {settled left : Option String} {told : α → List Event → Prop}
  {reported : ε → Event → Prop}

/-- A computation that returns accounts for its value by what it enters. -/
theorem of_ok {value : α} (course : body.Course file events settled (.ok value))
    (tells : told value events) : body.Accounts file settled (.ok value) told reported := by
  refine ⟨events, settled, course, fun _ same => ?_, nofun⟩
  cases same
  exact ⟨rfl, tells⟩

/-- A computation that fails accounts for its error by the one failure that it enters. -/
theorem of_error {error : ε} {own : Event} (course : body.Course file events file (.error error))
    (single : events.filter Event.isError = [own]) (reports : reported error own) :
    body.Accounts file settled (.error error) told reported := by
  refine ⟨events, file, course, nofun, fun _ same => ?_⟩
  cases same
  exact ⟨.inl rfl, own, single, reports⟩

/-- An account may tell less. -/
theorem mono {less : α → List Event → Prop}
    (accounts : body.Accounts file settled outcome told reported)
    (tells : ∀ value events, told value events → less value events) :
    body.Accounts file settled outcome less reported := by
  obtain ⟨events, after, course, returned, failed⟩ := accounts
  refine ⟨events, after, course, fun value same => ?_, failed⟩
  have ended := returned value same
  exact ⟨ended.1, tells value events ended.2⟩

/-- An account may report an error in other words. -/
theorem adapt (accounts : body.Accounts file settled outcome told reported) (reword : ε → δ)
    (again : δ → Event → Prop)
    (reports : ∀ error own, reported error own → again (reword error) own) :
    Accounts (body.adapt reword : Attempt δ α) file settled (outcome.mapError reword) told
      again := by
  obtain ⟨events, after, course, returned, failed⟩ := accounts
  refine ⟨events, after, course.adapt reword, fun value same => ?_, fun error same => ?_⟩
  · cases outcome with
    | error error => cases same
    | ok value =>
      cases same
      exact returned value rfl
  · cases outcome with
    | ok value => cases same
    | error error =>
      cases same
      obtain ⟨leaves, own, single, report⟩ := failed error rfl
      exact ⟨leaves, own, single, reports error own report⟩

/-- After a computation whose account has no failures, the account of the next one follows. -/
theorem bind {next : α → Attempt ε β} {final : α → Except ε β}
    {further : α → β → List Event → Prop}
    (first : body.Accounts file left outcome told reported)
    (quiet : ∀ value events, told value events → events.filter Event.isError = [])
    (keeps : left = file ∨ left = none)
    (second : ∀ value, outcome = .ok value →
      (next value).Accounts left settled (final value) (further value) reported) :
    (body >>= next).Accounts file settled (outcome >>= final)
      (fun result events => ∃ value before after, told value before ∧
        further value result after ∧ events = before ++ after) reported := by
  obtain ⟨before, between, course, returned, failed⟩ := first
  cases outcome with
  | error error =>
    obtain ⟨leaves, own, single, report⟩ := failed error rfl
    refine ⟨before, between, course.bind_error, nofun, fun _ same => ?_⟩
    cases same
    exact ⟨leaves, own, single, report⟩
  | ok value =>
    obtain ⟨leaves, tell⟩ := returned value rfl
    subst leaves
    obtain ⟨rest, after, goesOn, ended, broken⟩ := second value rfl
    refine ⟨before ++ rest, after, course.bind goesOn, fun result same => ?_, fun error same => ?_⟩
    · obtain ⟨leaves, later⟩ := ended result same
      exact ⟨leaves, value, before, rest, tell, later, rfl⟩
    · obtain ⟨leaves, own, single, report⟩ := broken error same
      have alone : (before ++ rest).filter Event.isError = [own] := by
        rw [List.filter_append, quiet value before tell, List.nil_append, single]
      have kept : after = file ∨ after = none := by
        rcases leaves with same | same
        · rw [same]
          exact keeps
        · exact .inr same
      exact ⟨kept, own, alone, report⟩

/-- An event that is no failure comes before what a computation tells. -/
theorem emit (accounts : body.Accounts file settled outcome told reported) (event : Event)
    (context : List (String × String)) (harmless : event.isError = false) :
    Accounts (do Log.emit event context; body) file settled outcome
      (fun value events => ∃ rest, told value rest ∧ events = event.marked file context :: rest)
      reported := by
  obtain ⟨events, after, course, returned, failed⟩ := accounts
  refine ⟨_, after, course.emit event context, fun value same => ?_, fun error same => ?_⟩
  · obtain ⟨leaves, tell⟩ := returned value same
    exact ⟨leaves, events, tell, rfl⟩
  · obtain ⟨leaves, own, single, report⟩ := failed error same
    have unmarked : ¬(event.marked file context).isError = true := by
      rw [Event.isError_marked, harmless]
      exact Bool.false_ne_true
    refine ⟨leaves, own, ?_, report⟩
    rw [List.filter_cons_of_neg unmarked, single]

end Accounts

end Attempt

end Conformance.Log
