import Conformance.Proofs.Run.Answer
import Conformance.Proofs.Symbol.Registrations
import Conformance.Proofs.Text.ByteOrder
import Mathlib.Data.List.Infix

/-!
# Resolutions

What looking for an implementation comes to is decided by the symbol that stands under the qualified
name: whether there is one, what it can do, and what its constructor builds, in this order. The main
statement says so of every registry that registrations make, with the names that are suggested where
there is no symbol, and that looking for a lexer or a parser comes to the same.
-/

namespace Conformance

/-- The constructor of an implementation. -/
def Implementation.constructor : Implementation → Constructor
  | .lexer _ construct => .lexer construct
  | .parser _ construct => .parser construct

/-- The constructor of an implementation builds what its role asks for. -/
theorem Implementation.builds_constructor (found : Implementation) :
    found.constructor.builds = found.role.capability := by
  cases found <;> rfl

/-- A constructor that builds what a role asks for makes an implementation in that role. -/
theorem Constructor.exists_implementation {construct : Constructor} {role : Role}
    (fits : construct.builds = role.capability) (name : String) :
    ∃ found : Implementation,
      found.name = name ∧ found.role = role ∧ found.constructor = construct := by
  cases construct with
  | lexer construct =>
    cases role with
    | lexer => exact ⟨.lexer name construct, rfl, rfl, rfl⟩
    | parser => cases fits
  | parser construct =>
    cases role with
    | lexer => cases fits
    | parser => exact ⟨.parser name construct, rfl, rfl, rfl⟩

namespace Registry

variable {registry : Registry} {name grammar : String} {role : Role}
  {answer : Except ResolutionError Implementation}

/-! ## What stands under a name -/

/-- What looking for a role under a name comes to, by the symbol that stands there. -/
inductive Resolves (registry : Registry) (name grammar : String) (role : Role) :
    Except ResolutionError Implementation → Prop
  /-- There is no symbol. -/
  | absent (unknown : registry.find? name = none) :
    Resolves registry name grammar role (.error (.notFound name (registry.suggestions grammar)))
  /-- The symbol can do something else. -/
  | incapable {symbol : Descriptor} (known : registry.find? name = some symbol)
    (other : symbol.capability ≠ role.capability) :
    Resolves registry name grammar role (.error (.wrongCapability name role.capability))
  /-- The symbol has no constructor that builds what the role asks for. -/
  | unbuildable {symbol : Descriptor} (known : registry.find? name = some symbol)
    (same : symbol.capability = role.capability)
    (unfit : ∀ construct ∈ symbol.construct, construct.builds ≠ role.capability) :
    Resolves registry name grammar role (.error (.missingConstructor name role))
  /-- The symbol has such a constructor. -/
  | found {symbol : Descriptor} {found : Implementation}
    (known : registry.find? name = some symbol) (same : symbol.capability = role.capability)
    (built : symbol.construct = some found.constructor) (named : found.name = name)
    (plays : found.role = role) : Resolves registry name grammar role (.ok found)

/-- What stands under a name decides what is answered. -/
theorem Resolves.implementation_eq (resolves : registry.Resolves name grammar role answer) :
    registry.implementation name grammar role = answer := by
  cases resolves with
  | absent unknown => rw [implementation, unknown]
  | incapable known other =>
    rw [implementation, known]
    exact if_pos other
  | unbuildable known same unfit =>
    rw [implementation, known]
    refine (if_neg (not_not.2 same)).trans ?_
    split
    · rename_i built
      exact absurd rfl (unfit _ built)
    · rename_i built
      exact absurd rfl (unfit _ built)
    · rfl
  | @found symbol implementation known same built named plays =>
    subst named plays
    rw [Registry.implementation, known]
    refine (if_neg (not_not.2 same)).trans ?_
    rw [built]
    cases implementation <;> rfl

/-- Something stands under every name, or nothing. -/
theorem resolves_implementation (registry : Registry) (name grammar : String) (role : Role) :
    registry.Resolves name grammar role (registry.implementation name grammar role) := by
  suffices ∃ answer, registry.Resolves name grammar role answer by
    obtain ⟨answer, resolves⟩ := this
    exact resolves.implementation_eq.symm ▸ resolves
  cases known : registry.find? name with
  | none => exact ⟨_, .absent known⟩
  | some symbol =>
    by_cases same : symbol.capability = role.capability
    · by_cases fits : ∃ construct ∈ symbol.construct, construct.builds = role.capability
      · obtain ⟨construct, built, fits⟩ := fits
        obtain ⟨found, named, plays, rfl⟩ := Constructor.exists_implementation fits name
        exact ⟨_, .found known same built named plays⟩
      · exact ⟨_, .unbuildable known same fun construct built fit => fits ⟨construct, built, fit⟩⟩
    · exact ⟨_, .incapable known same⟩

/-- An answer is given when what stands under the name comes to it. -/
theorem implementation_eq_iff :
    registry.implementation name grammar role = answer ↔
      registry.Resolves name grammar role answer :=
  ⟨fun given => given ▸ registry.resolves_implementation name grammar role,
    Resolves.implementation_eq⟩

/-! ## Suggestions -/

/-- The names suggested are the first three that the name of the grammar occurs in. -/
theorem suggestions_eq (registry : Registry) (grammar : String) :
    registry.suggestions grammar =
      if grammar = "" then []
      else (registry.names.filter fun name => decide (grammar.toList <:+: name.toList)).take 3 := by
  have within (name : String) :
      occurs grammar.toList name.toList = decide (grammar.toList <:+: name.toList) :=
    Bool.eq_iff_iff.2 (by rw [occurs_iff_isInfix, decide_eq_true_iff])
  simp only [suggestions, String.isEmpty_iff, within]

/-! ## Looking for a lexer or a parser -/

/-- Taking an implementation that is found for what its role makes it enters and answers nothing
more. -/
theorem run_resolve_bind {α : Type} {pick : Implementation → Log.Attempt ResolutionError α}
    {put : α → Implementation} (registry : Registry) (scope grammar : String)
    (fits : ∀ found : Implementation, found.role = role →
      ∃ value, pick found = pure value ∧ put value = found) (journal : Log.Journal) :
    ((registry.resolve scope grammar role >>= pick).run.run journal).map (Except.map put) id =
      (registry.resolve scope grammar role).run.run journal := by
  have given := registry.yields_resolve scope grammar role journal
  rw [Log.Attempt.run_bind]
  generalize (registry.resolve scope grammar role).run.run journal = ran at given ⊢
  obtain ⟨answer, after⟩ := ran
  cases answer with
  | error failure => rfl
  | ok found =>
    cases implementation_eq_iff.1 given.symm with
    | found known same built named plays =>
      obtain ⟨value, picked, rfl⟩ := fits found plays
      simp only [picked]
      rfl

/-- Looking for a lexer enters and answers what looking for an implementation in that role does. -/
theorem run_resolveLexer (registry : Registry) (identity : GrammarIdentity)
    (journal : Log.Journal) :
    ((registry.resolveLexer identity).run.run journal).map
        (Except.map fun found => .lexer found.1 found.2) id =
      (registry.resolve identity.scope identity.name .lexer).run.run journal := by
  apply run_resolve_bind
  intro found plays
  cases found with
  | lexer name construct => exact ⟨_, rfl, rfl⟩
  | parser name construct => cases plays

/-- Looking for a parser enters and answers what looking for an implementation in that role
does. -/
theorem run_resolveParser (registry : Registry) (identity : GrammarIdentity)
    (journal : Log.Journal) :
    ((registry.resolveParser identity).run.run journal).map
        (Except.map fun found => .parser found.1 found.2) id =
      (registry.resolve identity.scope identity.name .parser).run.run journal := by
  apply run_resolve_bind
  intro found plays
  cases found with
  | lexer name construct => cases plays
  | parser name construct => exact ⟨_, rfl, rfl⟩

/-! ## Every resolution -/

/-- After any calls on an empty registry, looking for an implementation of a grammar in a role
succeeds exactly when a symbol stands under the qualified name that has the capability of the role
and a constructor that builds what the role asks for. What is found has that name, that role and
the constructor of the symbol. Otherwise there is no symbol, and the first three names in the order
of their bytes that the name of the grammar occurs in are suggested, none if it is empty; or the
symbol has another capability, whatever its constructor; or it has the capability and no such
constructor. Looking for a lexer or for a parser enters and answers just what looking for an
implementation in its role does. -/
theorem resolve_exact (calls : List Call) (journal log : Log.Journal) (scope grammar : String)
    (role : Role) :
    let registry := ((empty.performAll calls).run journal).1
    let name := qualifiedName scope grammar role.suffix
    let answer := ((registry.resolve scope grammar role).run.run log).1
    ((∃ found, answer = .ok found) ↔ ∃ symbol construct, registry.find? name = some symbol ∧
        symbol.capability = role.capability ∧ symbol.construct = some construct ∧
        construct.builds = role.capability) ∧
      (∀ found, answer = .ok found → found.name = name ∧ found.role = role ∧
        ∃ symbol, registry.find? name = some symbol ∧
          symbol.construct = some found.constructor) ∧
      (∀ sought suggested, answer = .error (.notFound sought suggested) ↔
        registry.find? name = none ∧ sought = name ∧ suggested =
          if grammar = "" then []
          else (registry.names.filter fun name =>
            decide (grammar.toList <:+: name.toList)).take 3) ∧
      (registry.names.Pairwise fun first second => Text.bytes first < Text.bytes second) ∧
      (∀ name, name ∈ registry.names ↔ (registry.find? name).isSome = true) ∧
      (∀ sought required, answer = .error (.wrongCapability sought required) ↔
        (∃ symbol, registry.find? name = some symbol ∧ symbol.capability ≠ role.capability) ∧
          sought = name ∧ required = role.capability) ∧
      (∀ sought asked, answer = .error (.missingConstructor sought asked) ↔
        (∃ symbol, registry.find? name = some symbol ∧ symbol.capability = role.capability ∧
          ∀ construct ∈ symbol.construct, construct.builds ≠ role.capability) ∧
          sought = name ∧ asked = role) ∧
      ((registry.resolveLexer ⟨scope, grammar⟩).run.run log).map
          (Except.map fun found => .lexer found.1 found.2) id =
        (registry.resolve scope grammar .lexer).run.run log ∧
      ((registry.resolveParser ⟨scope, grammar⟩).run.run log).map
          (Except.map fun found => .parser found.1 found.2) id =
        (registry.resolve scope grammar .parser).run.run log := by
  intro registry name answer
  have given : registry.implementation name grammar role = answer :=
    (registry.yields_resolve scope grammar role log).symm
  have decides (other : Except ResolutionError Implementation) :
      answer = other ↔ registry.Resolves name grammar role other :=
    given ▸ implementation_eq_iff
  have ordered : registry.names.Pairwise (· < ·) := (reflects_calls calls journal).ascending
  refine ⟨⟨?_, ?_⟩, ?_, fun _ _ => ⟨?_, ?_⟩, ordered.imp Text.bytes_lt_of_lt,
    fun _ => mem_names_iff, fun _ _ => ⟨?_, ?_⟩, fun _ _ => ⟨?_, ?_⟩,
    registry.run_resolveLexer ⟨scope, grammar⟩ log,
    registry.run_resolveParser ⟨scope, grammar⟩ log⟩
  · rintro ⟨found, returned⟩
    cases (decides _).1 returned with
    | found known same built named plays =>
      exact ⟨_, _, known, same, built, plays ▸ found.builds_constructor⟩
  · rintro ⟨symbol, construct, known, same, built, fits⟩
    obtain ⟨found, named, plays, rfl⟩ := Constructor.exists_implementation fits name
    exact ⟨found, (decides _).2 (.found known same built named plays)⟩
  · intro found returned
    cases (decides _).1 returned with
    | found known same built named plays => exact ⟨named, plays, _, known, built⟩
  · intro failed
    cases (decides _).1 failed with
    | absent unknown => exact ⟨unknown, rfl, registry.suggestions_eq grammar⟩
  · rintro ⟨unknown, rfl, rfl⟩
    rw [← registry.suggestions_eq grammar]
    exact (decides _).2 (.absent unknown)
  · intro failed
    cases (decides _).1 failed with
    | incapable known other => exact ⟨⟨_, known, other⟩, rfl, rfl⟩
  · rintro ⟨⟨symbol, known, other⟩, rfl, rfl⟩
    exact (decides _).2 (.incapable known other)
  · intro failed
    cases (decides _).1 failed with
    | unbuildable known same unfit => exact ⟨⟨_, known, same, unfit⟩, rfl, rfl⟩
  · rintro ⟨⟨symbol, known, same, unfit⟩, rfl, rfl⟩
    exact (decides _).2 (.unbuildable known same unfit)

end Registry

end Conformance
