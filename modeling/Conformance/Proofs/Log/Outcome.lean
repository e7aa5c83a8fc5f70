import Conformance.Log.Journal
import Mathlib.Data.List.Forall2

/-!
# Outcomes apart from the journal

A computation may enter events into its journal, but it does not read them. So it has one outcome
whatever the journal says, and that of a computation put together from others follows from theirs.
-/

namespace Conformance.Log

variable {ε δ α β : Type} {outcome : Except ε α}

/-- Two steps return when the second does on the value of the first. -/
theorem exists_of_bind_eq_ok {next : α → Except ε β} {value : β}
    (returned : outcome >>= next = .ok value) :
    ∃ inner, outcome = .ok inner ∧ next inner = .ok value := by
  cases outcome with
  | error error => cases returned
  | ok inner => exact ⟨inner, rfl, returned⟩

/-- A value into which that of a step is put is returned when the step returns. -/
theorem exists_of_put_eq_ok {put : α → β} {value : β}
    (returned : outcome >>= (fun inner => .ok (put inner)) = .ok value) :
    ∃ inner, outcome = .ok inner ∧ value = put inner := by
  obtain ⟨inner, here, same⟩ := exists_of_bind_eq_ok returned
  exact ⟨inner, here, (Except.ok.inj same).symm⟩

/-- An outcome in other words returns what it returns. -/
theorem eq_ok_of_mapError {reword : ε → δ} {value : α}
    (returned : outcome.mapError reword = .ok value) : outcome = .ok value := by
  cases outcome with
  | error error => cases returned
  | ok inner =>
    cases returned
    rfl

namespace Attempt

variable {body : Attempt ε α}

/-- A computation has an outcome whatever its journal. -/
def Yields (body : Attempt ε α) (outcome : Except ε α) : Prop :=
  ∀ journal, (body.run.run journal).1 = outcome

/-- After a computation that returns the next one goes on with its journal; an error ends both. -/
theorem run_bind (body : Attempt ε α) (next : α → Attempt ε β) (journal : Journal) :
    (body >>= next).run.run journal =
      match body.run.run journal with
      | (.ok value, after) => (next value).run.run after
      | (.error error, after) => (.error error, after) := by
  simp only [Bind.bind, ExceptT.bind, ExceptT.mk, ExceptT.run, StateT.run, StateT.bind]
  generalize body journal = ran
  obtain ⟨result, after⟩ := ran
  cases result with
  | ok value => rfl
  | error error => rfl

namespace Yields

/-- A computation has one outcome. -/
theorem unique {other : Except ε α} (yields : body.Yields outcome) (again : body.Yields other) :
    outcome = other :=
  (yields Journal.empty).symm.trans (again Journal.empty)

/-- Returning yields a value. -/
theorem pure (value : α) : Yields (Pure.pure value : Attempt ε α) (.ok value) :=
  fun _ => rfl

/-- Failing yields an error. -/
theorem throw (error : ε) : Yields (MonadExcept.throw error : Attempt ε α) (.error error) :=
  fun _ => rfl

/-- An outcome that leaves the journal alone is yielded. -/
theorem attempt (outcome : Except ε α) : Yields (Log.attempt outcome) outcome :=
  fun _ => rfl

/-- An event before a computation does not change what it yields. -/
theorem emit (yields : body.Yields outcome) (event : Event) (context : List (String × String)) :
    Yields (do Log.emit event context; body) outcome :=
  fun _ => yields _

/-- One computation after the other yields what the second does on the value of the first. -/
theorem bind {next : α → Attempt ε β} {further : α → Except ε β} (first : body.Yields outcome)
    (second : ∀ value, (next value).Yields (further value)) :
    Yields (body >>= next) (outcome >>= further) := by
  intro journal
  rw [run_bind]
  have same := first journal
  generalize body.run.run journal = ran at same ⊢
  obtain ⟨result, after⟩ := ran
  cases result with
  | ok value =>
    rw [← same]
    exact second value after
  | error error =>
    rw [← same]
    rfl

/-- After a computation that returns a value the next one decides. -/
theorem bind_ok {next : α → Attempt ε β} {further : Except ε β} {value : α}
    (first : body.Yields (.ok value)) (second : (next value).Yields further) :
    Yields (body >>= next) further := by
  intro journal
  rw [run_bind]
  have same := first journal
  generalize body.run.run journal = ran at same ⊢
  obtain ⟨result, after⟩ := ran
  cases same
  exact second after

/-- An error is that of all that would come after it. -/
theorem bind_error {next : α → Attempt ε β} {error : ε} (first : body.Yields (.error error)) :
    Yields (body >>= next) (.error error) := by
  intro journal
  rw [run_bind]
  have same := first journal
  generalize body.run.run journal = ran at same ⊢
  obtain ⟨result, after⟩ := ran
  cases same
  rfl

/-- An error in other words is yielded in other words. -/
theorem adapt (yields : body.Yields outcome) (reword : ε → δ) :
    Yields (body.adapt reword : Attempt δ α) (outcome.mapError reword) := by
  intro journal
  change (body.run.run journal).1.mapError reword = outcome.mapError reword
  rw [yields journal]

/-- What only enters events and hands on the outcome does not change it. -/
theorem follow {after : Except ε α → Journaled (Except ε α)} (yields : body.Yields outcome)
    (keeps : ∀ result journal, ((after result).run journal).1 = result) :
    Yields (ExceptT.mk (body.run >>= after)) outcome := by
  intro journal
  have same := yields journal
  change ((after (body.run.run journal).1).run (body.run.run journal).2).1 = outcome
  rw [keeps, same]

/-- Working on a file does not change what a computation yields. -/
theorem withFile (yields : body.Yields outcome) (file : String) :
    Yields (ExceptT.mk (Log.withFile file body.run)) outcome :=
  fun _ => yields _

end Yields

end Attempt

end Conformance.Log

namespace Conformance

/-! ## Steps on lists -/

section Lists

variable {ε α β : Type} {f : α → Except ε β}

/-- Steps on the elements of a list return when each of them does. -/
theorem mapM_eq_ok_iff {xs : List α} {ys : List β} :
    xs.mapM f = .ok ys ↔ List.Forall₂ (fun x y => f x = .ok y) xs ys := by
  induction xs generalizing ys with
  | nil =>
    rw [List.mapM_nil, List.forall₂_nil_left_iff]
    exact ⟨fun same => by cases same; rfl, fun same => by rw [same]; rfl⟩
  | cons x xs ih =>
    rw [List.mapM_cons, List.forall₂_cons_left_iff]
    constructor
    · intro returned
      obtain ⟨y, first, further⟩ := Log.exists_of_bind_eq_ok returned
      obtain ⟨rest, others, same⟩ := Log.exists_of_bind_eq_ok further
      cases same
      exact ⟨y, rest, first, ih.1 others, rfl⟩
    · rintro ⟨y, rest, first, others, rfl⟩
      rw [first, ih.2 others]
      rfl

/-- What is returned for a list is returned by a step on one of its elements. -/
theorem exists_of_mem_mapM {xs : List α} {ys : List β} (returned : xs.mapM f = .ok ys) {y : β}
    (member : y ∈ ys) : ∃ x ∈ xs, f x = .ok y := by
  have each := mapM_eq_ok_iff.1 returned
  obtain ⟨index, inside, rfl⟩ := List.getElem_of_mem member
  have known : index < xs.length := each.length_eq ▸ inside
  exact ⟨xs[index], List.getElem_mem known, each.get known inside⟩

/-- A list can be related to another one when each of its elements can be to something. -/
theorem exists_forall₂_iff {related : α → β → Prop} {xs : List α} :
    (∃ ys, List.Forall₂ related xs ys) ↔ ∀ x ∈ xs, ∃ y, related x y := by
  induction xs with
  | nil => exact ⟨fun _ => nofun, fun _ => ⟨[], .nil⟩⟩
  | cons x xs ih =>
    rw [List.forall_mem_cons, ← ih]
    constructor
    · rintro ⟨_, first | ⟨first, rest⟩⟩
      exact ⟨⟨_, first⟩, _, rest⟩
    · rintro ⟨⟨y, first⟩, ys, rest⟩
      exact ⟨y :: ys, .cons first rest⟩

/-- Steps on the elements of a list fail as the first of them that fails. -/
theorem mapM_eq_error_iff {xs : List α} {error : ε} :
    xs.mapM f = .error error ↔
      ∃ before x after, xs = before ++ x :: after ∧ (∃ ys, before.mapM f = .ok ys) ∧
        f x = .error error := by
  constructor
  · intro failed
    induction xs with
    | nil => cases failed
    | cons x xs ih =>
      rw [List.mapM_cons] at failed
      cases first : f x with
      | error cause =>
        rw [first] at failed
        cases failed
        exact ⟨[], x, xs, rfl, ⟨[], rfl⟩, first⟩
      | ok y =>
        rw [first] at failed
        cases others : xs.mapM f with
        | error cause =>
          simp only [others, Bind.bind, Except.bind] at failed
          cases failed
          obtain ⟨before, x', after, rfl, ⟨ys, fine⟩, fails⟩ := ih others
          refine ⟨x :: before, x', after, rfl, ⟨y :: ys, ?_⟩, fails⟩
          rw [List.mapM_cons, first, fine]
          rfl
        | ok ys =>
          simp only [others, Bind.bind, Except.bind] at failed
          cases failed
  · rintro ⟨before, x, after, rfl, ⟨ys, fine⟩, fails⟩
    rw [List.mapM_append, fine, List.mapM_cons, fails]
    rfl

end Lists

end Conformance
