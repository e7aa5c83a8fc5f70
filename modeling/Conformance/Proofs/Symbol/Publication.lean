import Conformance.Proofs.Symbol.Registrations

/-!
# The publication of Snafu

Publishing registers three symbols one after the other and stops at the first one whose name is
taken. So it either adds all of them, or fails, and then the symbols before the one that failed stay
registered. Nothing else changes.
-/

namespace Conformance

namespace Registry

variable {before after : Registry} {symbol : Descriptor}
  {added : List Descriptor}

/-- A registry has gained some symbols, and nothing else has changed. -/
structure Gains (before after : Registry) (added : List Descriptor) : Prop where
  /-- The symbols added are found under their names and the former ones under the others. -/
  found : ∀ name, after.find? name =
    (added.find? fun symbol => symbol.name == name).or (before.find? name)
  /-- There are as many symbols more as were added. -/
  size : after.size = before.size + added.length
  /-- Nothing has changed if none was added. -/
  kept : added = [] → after = before

/-- Without additions a registry stays as it is. -/
theorem Gains.refl (registry : Registry) : Gains registry registry [] where
  found _ := rfl
  size := rfl
  kept _ := rfl

/-- A symbol under a new name is gained before others with other names. -/
theorem Gains.cons (fresh : before.find? symbol.name = none)
    (apart : ∀ other ∈ added, other.name ≠ symbol.name)
    (gains : Gains ⟨Keyed.put Descriptor.name symbol before.symbols⟩ after added) :
    Gains before after (symbol :: added) where
  found name := by
    have later := gains.found name
    by_cases same : symbol.name = name
    · subst same
      have absent : (added.find? fun other => other.name == symbol.name) = none :=
        List.find?_eq_none.2 fun other member => by simpa using apart other member
      rw [later, absent, Option.none_or, List.find?_cons_of_pos (by simp), Option.some_or]
      exact Keyed.find?_put_self symbol before.symbols
    · have others : Registry.find? ⟨Keyed.put Descriptor.name symbol before.symbols⟩ name =
          before.find? name := Keyed.find?_put_of_ne same before.symbols
      rw [later, others, List.find?_cons_of_neg (by simpa using same)]
  size := by
    have longer : Registry.size ⟨Keyed.put Descriptor.name symbol before.symbols⟩ =
        before.size + 1 := Keyed.length_put_of_find?_eq_none fresh
    rw [gains.size, longer, List.length_cons]
    omega
  kept := nofun

/-- What registering symbols one after the other comes to. -/
inductive Registers (before : Registry) (symbols : List Descriptor) :
    Except RegistryError Unit → Registry → Prop
  /-- The names were new, and all symbols are gained. -/
  | all {after : Registry} (fresh : ∀ symbol ∈ symbols, before.find? symbol.name = none)
    (gains : Gains before after symbols) : Registers before symbols (.ok ()) after
  /-- A name was taken, and the symbols before it are gained. -/
  | upTo {after : Registry} {added further : List Descriptor} {taken : Descriptor}
    (split : symbols = added ++ taken :: further)
    (fresh : ∀ symbol ∈ added, before.find? symbol.name = none)
    (held : (before.find? taken.name).isSome = true) (gains : Gains before after added) :
    Registers before symbols (.error (.duplicate taken.name)) after

/-- Symbols under names that are different and not blank are registered up to the first name that is
taken. -/
theorem registers_registerAll (registry : Registry) (symbols : List Descriptor)
    (named : ∀ symbol ∈ symbols, Text.isAllBlank symbol.name = false)
    (distinct : symbols.Pairwise fun first second => second.name ≠ first.name)
    (journal : Log.Journal) :
    Registers registry symbols ((registry.registerAll symbols).run journal).1.1
      ((registry.registerAll symbols).run journal).1.2 := by
  induction symbols generalizing registry journal with
  | nil => exact .all nofun (.refl registry)
  | cons symbol symbols ih =>
    obtain ⟨here, others⟩ := List.forall_mem_cons.1 named
    obtain ⟨apart, rest⟩ := List.pairwise_cons.1 distinct
    obtain ⟨later, ran⟩ := run_registerAll_cons registry symbol symbols journal
    rw [ran, add, if_neg (Bool.eq_false_iff.1 here)]
    by_cases held : registry.contains symbol.name = true
    · rw [if_pos held]
      exact .upTo (List.nil_append _).symm nofun held (.refl registry)
    · rw [if_neg held]
      dsimp only
      have fresh : registry.find? symbol.name = none := by simpa [contains] using held
      have still : ∀ other ∈ symbols,
          Registry.find? ⟨Keyed.put Descriptor.name symbol registry.symbols⟩ other.name =
            registry.find? other.name := fun other member =>
        Keyed.find?_put_of_ne (apart other member).symm registry.symbols
      have further := ih ⟨Keyed.put Descriptor.name symbol registry.symbols⟩ others rest later
      generalize StateT.run _ later = ended at further ⊢
      obtain ⟨⟨answer, after⟩, journal⟩ := ended
      cases further with
      | all new gains =>
        refine .all ?_ (gains.cons fresh apart)
        exact List.forall_mem_cons.2 ⟨fresh, fun other member =>
          (still other member).symm.trans (new other member)⟩
      | @upTo _ added further taken split new held gains =>
        subst split
        have prior : ∀ other ∈ added, other ∈ added ++ taken :: further := fun _ =>
          List.mem_append_left _
        have last : taken ∈ added ++ taken :: further :=
          List.mem_append_right _ List.mem_cons_self
        refine .upTo (List.cons_append ..).symm ?_ (still taken last ▸ held)
          (gains.cons fresh fun other member => apart other (prior other member))
        exact List.forall_mem_cons.2 ⟨fresh, fun other member =>
          (still other (prior other member)).symm.trans (new other member)⟩

end Registry

namespace Snafu

/-- The symbols of Snafu, by their full names. -/
theorem symbols_eq : symbols = [
    ⟨"foo.bar.baz.SnafuLexer", .lexer, some (.lexer lexerConstructor)⟩,
    ⟨"foo.bar.baz.SnafuParser", .parser, some (.parser parserConstructor)⟩,
    ⟨"foo.bar.baz.SnafuListener", .other, none⟩] :=
  rfl

/-- Publishing Snafu registers its symbols up to the first name that is taken. -/
theorem registers_publish (registry : Registry) (journal : Log.Journal) :
    registry.Registers symbols ((publish registry).run journal).1.1
      ((publish registry).run journal).1.2 := by
  apply registry.registers_registerAll
  · rw [symbols_eq]
    decide
  · rw [symbols_eq]
    decide

/-- Publishing Snafu in any registry succeeds exactly when none of its three names is taken, and
then the registry has gained its lexer, its parser and the type of its listeners, and nothing else
has changed. Otherwise it fails with the first of the names, in this order, that is taken, and the
registry has gained the symbols before that one and nothing else: none if the name of the lexer is
taken. -/
theorem publish_registers (registry : Registry) (journal : Log.Journal) :
    let answer := ((publish registry).run journal).1.1
    let after := ((publish registry).run journal).1.2
    symbols = [
        ⟨"foo.bar.baz.SnafuLexer", .lexer, some (.lexer lexerConstructor)⟩,
        ⟨"foo.bar.baz.SnafuParser", .parser, some (.parser parserConstructor)⟩,
        ⟨"foo.bar.baz.SnafuListener", .other, none⟩] ∧
      (answer = .ok () ↔ ∀ symbol ∈ symbols, symbol.name ∉ registry.names) ∧
      (answer = .ok () ∧ registry.Gains after symbols ∨
        ∃ added taken further, symbols = added ++ taken :: further ∧
          (∀ symbol ∈ added, symbol.name ∉ registry.names) ∧ taken.name ∈ registry.names ∧
          answer = .error (.duplicate taken.name) ∧ registry.Gains after added) := by
  intro answer after
  have unknown (symbol : Descriptor) :
      symbol.name ∉ registry.names ↔ registry.find? symbol.name = none := by
    rw [Registry.mem_names_iff, Option.not_isSome_iff_eq_none]
  refine ⟨symbols_eq, ?_⟩
  simp only [unknown]
  have registers : registry.Registers symbols answer after := registers_publish registry journal
  generalize answer = answered at registers
  cases registers with
  | all fresh gains => exact ⟨iff_of_true rfl fresh, .inl ⟨rfl, gains⟩⟩
  | @upTo _ added further taken split fresh held gains =>
    have member : taken ∈ symbols := split ▸ List.mem_append_right _ List.mem_cons_self
    refine ⟨iff_of_false nofun fun all => ?_, .inr ⟨added, taken, further, split, fresh,
      Registry.mem_names_iff.2 held, rfl, gains⟩⟩
    rw [all taken member] at held
    cases held

/-- Where only the name of the parser is taken, publishing fails and leaves the lexer registered. So
it is not all or nothing. -/
theorem not_publish_allOrNothing :
    ¬ ∀ (calls : List Registry.Call) (journal log : Log.Journal),
      let registry := ((Registry.empty.performAll calls).run journal).1
      let answer := ((publish registry).run log).1.1
      let after := ((publish registry).run log).1.2
      answer = .ok () ∧ registry.Gains after symbols ∨
        (∃ name, answer = .error (.duplicate name)) ∧ after = registry := by
  intro claim
  have here := claim [.symbol (.plain "foo.bar.baz.SnafuParser" .other)] .empty .empty
  dsimp only at here
  rcases here with ⟨succeeded, -⟩ | ⟨-, same⟩
  · cases succeeded
  · exact absurd (congrArg Registry.size same) (by decide)

end Snafu

end Conformance
