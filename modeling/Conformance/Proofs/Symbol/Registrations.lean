import Conformance.Grammar.Snafu.Publication

/-!
# Registrations

Symbols come into a registry by calls: a lexer, a parser or any other symbol is registered, or Snafu
is published, which registers symbols one after the other. Each single registration either adds
its symbol or fails and changes nothing. So whatever the calls, the registry holds for every name
the first symbol that was registered under it, for ever, and its names stay in order.
-/

namespace Conformance

/-! ## Adding to a list in order -/

namespace Keyed

variable {α : Type} {key : α → String} {entry : α} {entries : List α}

/-- An entry under a new key makes the list longer by one. -/
theorem length_put_of_find?_eq_none (fresh : find? key (key entry) entries = none) :
    (put key entry entries).length = entries.length + 1 := by
  induction entries with
  | nil => rfl
  | cons head tail ih =>
    obtain ⟨other, further⟩ := List.forall_mem_cons.1 (List.find?_eq_none.1 fresh)
    have apart : key entry ≠ key head := fun same => other (beq_iff_eq.2 same.symm)
    have absent : find? key (key entry) tail = none := List.find?_eq_none.2 further
    unfold put
    split
    · rfl
    · rw [List.length_cons, ih absent, List.length_cons]

end Keyed

namespace Registry

/-! ## Calls -/

/-- A call that registers symbols. -/
inductive Call where
  /-- Register a lexer. -/
  | lexer (name : String) (construct : LexerConstructor)
  /-- Register a parser. -/
  | parser (name : String) (construct : ParserConstructor)
  /-- Register a symbol by its descriptor. -/
  | symbol (descriptor : Descriptor)
  /-- Publish Snafu. -/
  | snafu

/-- The symbols that a call registers, in order. -/
def Call.symbols : Call → List Descriptor
  | .lexer name construct => [.lexer name construct]
  | .parser name construct => [.parser name construct]
  | .symbol descriptor => [descriptor]
  | .snafu => Snafu.symbols

/-- Carry out a call: what it answers, and the registry after it. -/
def perform (registry : Registry) : Call → Log.Journaled (Except RegistryError Unit × Registry)
  | .lexer name construct => registry.registerAll [.lexer name construct]
  | .parser name construct => registry.registerAll [.parser name construct]
  | .symbol descriptor => registry.registerAll [descriptor]
  | .snafu => Snafu.publish registry

/-- The registry after calls, whatever they answer. -/
def performAll (registry : Registry) : List Call → Log.Journaled Registry
  | [] => return registry
  | call :: calls => do
    let (_, next) ← registry.perform call
    next.performAll calls

/-- A call registers its symbols one after the other. -/
theorem perform_eq (registry : Registry) (call : Call) :
    registry.perform call = registry.registerAll call.symbols := by
  cases call <;> rfl

/-! ## Single registrations -/

/-- A single registration. -/
structure Registration where
  /-- The registry before. -/
  before : Registry
  /-- The symbol that is registered. -/
  symbol : Descriptor
  /-- What is answered. -/
  answer : Except RegistryError Unit
  /-- The registry afterwards. -/
  after : Registry

/-- The symbol has been added. -/
def Registration.succeeded (registration : Registration) : Bool :=
  registration.answer.isOk

/-- The registration of one symbol. -/
def registration (registry : Registry) (symbol : Descriptor) : Registration :=
  let (answer, after) := ((registry.perform (.symbol symbol)).run .empty).1
  ⟨registry, symbol, answer, after⟩

/-- The single registrations of symbols one after the other, up to the first one that fails. -/
def registrations (registry : Registry) : List Descriptor → List Registration
  | [] => []
  | symbol :: symbols =>
    let first := registry.registration symbol
    first :: if first.succeeded then first.after.registrations symbols else []

/-- The single registrations of calls one after the other. -/
def history (registry : Registry) : List Call → List Registration
  | [] => []
  | call :: calls =>
    registry.registrations call.symbols ++
      ((registry.perform call).run .empty).1.2.history calls

/-- The registry that registrations leave. -/
def afterAll (registry : Registry) (past : List Registration) : Registry :=
  past.foldl (fun _ registration => registration.after) registry

variable {registry : Registry} {symbol : Descriptor} {symbols : List Descriptor}
  {past : List Registration}

/-- Registering answers what adding does, whatever the journal. -/
theorem run_register (registry : Registry) (symbol : Descriptor) (journal : Log.Journal) :
    ((registry.register symbol).run journal).1 = registry.add symbol := by
  unfold register
  cases registry.add symbol with
  | ok next => rfl
  | error failure => cases failure <;> rfl

/-- Registering symbols goes on behind the first one if that is added, and ends if it is not. -/
theorem run_registerAll_cons (registry : Registry) (symbol : Descriptor)
    (symbols : List Descriptor) (journal : Log.Journal) :
    ∃ later, ((registry.registerAll (symbol :: symbols)).run journal).1 =
      match registry.add symbol with
      | .ok next => ((next.registerAll symbols).run later).1
      | .error failure => (.error failure, registry) := by
  have same := run_register registry symbol journal
  refine ⟨((registry.register symbol).run journal).2, ?_⟩
  change (StateT.run (match ((registry.register symbol).run journal).1 with
    | .ok next => next.registerAll symbols
    | .error failure => pure (.error failure, registry))
      ((registry.register symbol).run journal).2).1 = _
  rw [same]
  cases registry.add symbol with
  | ok next => rfl
  | error failure => rfl

/-- A single registration does what adding does. -/
theorem registration_eq (registry : Registry) (symbol : Descriptor) :
    registry.registration symbol =
      match registry.add symbol with
      | .ok next => ⟨registry, symbol, .ok (), next⟩
      | .error failure => ⟨registry, symbol, .error failure, registry⟩ := by
  obtain ⟨later, ran⟩ := run_registerAll_cons registry symbol [] .empty
  have performed : registry.perform (.symbol symbol) = registry.registerAll [symbol] := rfl
  unfold registration
  rw [performed, ran]
  cases registry.add symbol with
  | ok next => rfl
  | error failure => rfl

/-- Registering symbols leaves what their single registrations leave, whatever the journal. -/
theorem run_registerAll (registry : Registry) (symbols : List Descriptor) (journal : Log.Journal) :
    ((registry.registerAll symbols).run journal).1.2 =
      registry.afterAll (registry.registrations symbols) := by
  induction symbols generalizing registry journal with
  | nil => rfl
  | cons symbol symbols ih =>
    obtain ⟨later, ran⟩ := run_registerAll_cons registry symbol symbols journal
    have single := registration_eq registry symbol
    rw [ran, registrations]
    cases added : registry.add symbol with
    | ok next =>
      rw [added] at single
      simp only [single]
      exact ih next later
    | error failure =>
      rw [added] at single
      simp only [single]
      rfl

/-- A call leaves what its single registrations leave, whatever the journal. -/
theorem run_perform (registry : Registry) (call : Call) (journal : Log.Journal) :
    ((registry.perform call).run journal).1.2 =
      registry.afterAll (registry.registrations call.symbols) := by
  rw [perform_eq]
  exact run_registerAll registry call.symbols journal

/-- Calls leave what their single registrations leave, whatever the journal. -/
theorem run_performAll (registry : Registry) (calls : List Call) (journal : Log.Journal) :
    ((registry.performAll calls).run journal).1 = registry.afterAll (registry.history calls) := by
  induction calls generalizing registry journal with
  | nil => rfl
  | cons call calls ih =>
    change (((((registry.perform call).run journal).1.2).performAll calls).run
      ((registry.perform call).run journal).2).1 = _
    rw [ih, run_perform, Registry.history, run_perform, afterAll, afterAll, afterAll,
      List.foldl_append]

/-- The registrations of further calls come behind those of the first ones. -/
theorem history_append (registry : Registry) (calls further : List Call) :
    ∃ later, registry.history (calls ++ further) = registry.history calls ++ later := by
  induction calls generalizing registry with
  | nil => exact ⟨_, rfl⟩
  | cons call calls ih =>
    obtain ⟨later, behind⟩ := ih ((registry.perform call).run .empty).1.2
    exact ⟨later, by rw [List.cons_append, Registry.history, behind, Registry.history,
      List.append_assoc]⟩

/-! ## One registration -/

/-- A name is registered when a symbol is found under it. -/
theorem mem_names_iff {name : String} :
    name ∈ registry.names ↔ (registry.find? name).isSome = true := by
  rw [names, List.mem_map, find?, Keyed.find?, List.find?_isSome]
  simp only [beq_iff_eq]

/-- A symbol that is found under a name has that name. -/
theorem name_eq_of_find? {name : String} (found : registry.find? name = some symbol) :
    symbol.name = name := by
  simpa using List.find?_some found

/-- A single registration adds a symbol with a new name that is not blank. Otherwise it fails and
leaves the registry as it is. -/
theorem registration_cases (registry : Registry) (symbol : Descriptor) :
    (Text.isAllBlank symbol.name = false ∧ registry.find? symbol.name = none ∧
      registry.registration symbol =
        ⟨registry, symbol, .ok (), ⟨Keyed.put Descriptor.name symbol registry.symbols⟩⟩) ∨
    ((Text.isAllBlank symbol.name = true ∨ symbol.name ∈ registry.names) ∧
      ∃ failure, registry.registration symbol = ⟨registry, symbol, .error failure, registry⟩) := by
  have single := registration_eq registry symbol
  unfold add at single
  by_cases blank : Text.isAllBlank symbol.name = true
  · rw [if_pos blank] at single
    exact .inr ⟨.inl blank, _, single⟩
  · rw [if_neg blank] at single
    by_cases taken : registry.contains symbol.name = true
    · rw [if_pos taken] at single
      exact .inr ⟨.inr (mem_names_iff.2 taken), _, single⟩
    · rw [if_neg taken] at single
      have fresh : registry.find? symbol.name = none := by
        simpa [contains] using taken
      exact .inl ⟨Bool.eq_false_iff.2 blank, fresh, single⟩

/-- A single registration succeeds exactly when its name is new and not blank, and when it fails it
changes nothing. -/
structure Registration.Sound (registration : Registration) : Prop where
  /-- A registration succeeds exactly under a new name that is not blank. -/
  succeeds_iff : registration.answer = .ok () ↔
    Text.isAllBlank registration.symbol.name = false ∧
      registration.symbol.name ∉ registration.before.names
  /-- A registration that fails leaves the registry as it was. -/
  after_eq : registration.answer ≠ .ok () → registration.after = registration.before

/-- Every single registration is sound. -/
theorem sound_registration (registry : Registry) (symbol : Descriptor) :
    (registry.registration symbol).Sound := by
  rcases registry.registration_cases symbol with ⟨named, fresh, added⟩ | ⟨reason, failure, failed⟩
  · rw [added]
    have absent : symbol.name ∉ registry.names := by
      rw [mem_names_iff, fresh]
      exact Bool.false_ne_true
    exact ⟨iff_of_true rfl ⟨named, absent⟩, fun other => absurd rfl other⟩
  · rw [failed]
    refine ⟨iff_of_false nofun ?_, fun _ => rfl⟩
    rintro ⟨named, absent⟩
    rcases reason with blank | taken
    · rw [named] at blank
      cases blank
    · exact absent taken

/-! ## All registrations -/

/-- What a registry holds after some registrations that started with an empty one. -/
structure Reflects (registry : Registry) (past : List Registration) : Prop where
  /-- The names are in order, each once. -/
  ascending : registry.names.Pairwise (· < ·)
  /-- No name is blank. -/
  named : ∀ name ∈ registry.names, Text.isAllBlank name = false
  /-- There are as many symbols as registrations that succeeded. -/
  size : registry.size = past.countP Registration.succeeded
  /-- Under each name stands the symbol of the first registration that succeeded. -/
  found : ∀ name, registry.find? name =
    (past.find? fun registration =>
      registration.succeeded && registration.symbol.name == name).map Registration.symbol
  /-- Every registration is sound. -/
  sound : ∀ registration ∈ past, registration.Sound

/-- The empty registry reflects that nothing was registered. -/
theorem reflects_empty : empty.Reflects [] where
  ascending := List.Pairwise.nil
  named _ found := nomatch found
  size := rfl
  found _ := rfl
  sound _ found := nomatch found

/-- One more registration is reflected. -/
theorem Reflects.step (reflects : registry.Reflects past) (symbol : Descriptor) :
    (registry.registration symbol).after.Reflects (past ++ [registry.registration symbol]) := by
  have sound : ∀ registration ∈ past ++ [registry.registration symbol], registration.Sound := by
    intro registration found
    rcases List.mem_append.1 found with former | last
    · exact reflects.sound registration former
    · exact List.mem_singleton.1 last ▸ sound_registration registry symbol
  rcases registry.registration_cases symbol with ⟨named, fresh, added⟩ | ⟨-, failure, failed⟩
  · rw [added] at sound ⊢
    refine ⟨?_, ?_, ?_, ?_, sound⟩
    · exact List.pairwise_map.2
        (Keyed.ascending_put symbol (List.pairwise_map.1 reflects.ascending))
    · intro name found
      obtain ⟨other, member, rfl⟩ := List.mem_map.1 found
      rcases Keyed.mem_of_mem_put member with rfl | former
      · exact named
      · exact reflects.named _ (List.mem_map_of_mem former)
    · change (Keyed.put Descriptor.name symbol registry.symbols).length = _
      have size : registry.symbols.length = _ := reflects.size
      rw [Keyed.length_put_of_find?_eq_none fresh, size, List.countP_append]
      rfl
    · intro name
      change Keyed.find? Descriptor.name name (Keyed.put Descriptor.name symbol _) = _
      rw [List.find?_append]
      by_cases same : symbol.name = name
      · subst same
        have before := reflects.found symbol.name
        rw [fresh] at before
        rw [Keyed.find?_put_self, Option.map_eq_none_iff.1 before.symm]
        simp [Registration.succeeded, Except.isOk, Except.toBool]
      · have kept : registry.find? name = _ := reflects.found name
        rw [Keyed.find?_put_of_ne same]
        change registry.find? name = _
        rw [kept]
        simp [same]
  · rw [failed] at sound ⊢
    refine ⟨reflects.ascending, reflects.named, ?_, ?_, sound⟩
    · rw [List.countP_append, ← reflects.size]
      rfl
    · intro name
      rw [List.find?_append, reflects.found name]
      simp [Registration.succeeded, Except.isOk, Except.toBool]

/-- The registrations of symbols one after the other are reflected. -/
theorem Reflects.registrations (reflects : registry.Reflects past) (symbols : List Descriptor) :
    (registry.afterAll (registry.registrations symbols)).Reflects
      (past ++ registry.registrations symbols) := by
  induction symbols generalizing registry past with
  | nil => exact (List.append_nil past).symm ▸ reflects
  | cons symbol symbols ih =>
    have further := reflects.step symbol
    unfold Registry.registrations
    by_cases succeeded : (registry.registration symbol).succeeded = true
    · simp only [if_pos succeeded]
      rw [List.append_cons]
      exact ih further
    · simp only [if_neg succeeded]
      exact further

/-- The registrations of calls one after the other are reflected. -/
theorem Reflects.history (reflects : registry.Reflects past) (calls : List Call) :
    (registry.afterAll (registry.history calls)).Reflects
      (past ++ registry.history calls) := by
  induction calls generalizing registry past with
  | nil => exact (List.append_nil past).symm ▸ reflects
  | cons call calls ih =>
    have further := ih (reflects.registrations call.symbols)
    rw [Registry.history, run_perform, ← List.append_assoc, afterAll, List.foldl_append]
    exact further

/-- After any calls on an empty registry it reflects their single registrations. -/
theorem reflects_calls (calls : List Call) (journal : Log.Journal) :
    ((empty.performAll calls).run journal).1.Reflects (empty.history calls) := by
  rw [run_performAll]
  exact reflects_empty.history calls

/-- After any calls on an empty registry, whatever they answered, its names are in strict order and
none is blank. A symbol is found under its own name. There are as many symbols as single
registrations that succeeded, and under each name stands the symbol of the first of them, which no
further calls replace or remove. A single registration fails exactly when its name is blank or
taken, and then it changes nothing. -/
theorem performAll_reflects (calls : List Call) (journal : Log.Journal) :
    let registry := ((empty.performAll calls).run journal).1
    let past := empty.history calls
    registry = empty.afterAll past ∧
      registry.names.Pairwise (· < ·) ∧
      (∀ name ∈ registry.names, Text.isAllBlank name = false) ∧
      (∀ name symbol, registry.find? name = some symbol → symbol.name = name) ∧
      registry.size = past.countP Registration.succeeded ∧
      (∀ name, registry.find? name =
        (past.find? fun registration =>
          registration.succeeded && registration.symbol.name == name).map Registration.symbol) ∧
      (∀ further name symbol, registry.find? name = some symbol →
        ((empty.performAll (calls ++ further)).run journal).1.find? name = some symbol) ∧
      ∀ registration ∈ past,
        (registration.answer = .ok () ↔ Text.isAllBlank registration.symbol.name = false ∧
          registration.symbol.name ∉ registration.before.names) ∧
        (registration.answer ≠ .ok () → registration.after = registration.before) := by
  intro registry past
  have reflects (calls : List Call) :
      ((empty.performAll calls).run journal).1.Reflects (empty.history calls) := by
    rw [run_performAll]
    exact reflects_empty.history calls
  have here := reflects calls
  refine ⟨run_performAll empty calls journal, here.ascending, here.named,
    fun _ _ => name_eq_of_find?, here.size, here.found, ?_, ?_⟩
  · intro further name symbol found
    obtain ⟨later, behind⟩ := history_append empty calls further
    have first : (past.find? fun registration => registration.succeeded &&
        registration.symbol.name == name).map Registration.symbol = some symbol :=
      (here.found name).symm.trans found
    obtain ⟨registration, held, rfl⟩ := Option.map_eq_some_iff.1 first
    rw [(reflects (calls ++ further)).found name, behind, List.find?_append, held]
    rfl
  · intro registration member
    exact ⟨(here.sound registration member).succeeds_iff, (here.sound registration member).after_eq⟩

end Registry

end Conformance
