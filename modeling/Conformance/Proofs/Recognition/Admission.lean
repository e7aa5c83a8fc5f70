import Conformance.Proofs.Run.Answer

/-!
# Admission of start rules

A rule table may hold several entries of one name. Those without arguments are what a call by name
can mean, and the first of them decides: the rule is run if this entry is public. So a public entry
is of no use behind an internal one, and only then does the order of the entries matter. A call that
is refused runs no rule.
-/

namespace Conformance

open Log

/-! ## The entries of a table -/

namespace RuleEntry

/-- The entry describes a rule of a name without arguments. -/
def Offers (entry : RuleEntry) (name : String) : Prop :=
  entry.name = name ∧ entry.arity = 0

instance (entry : RuleEntry) (name : String) : Decidable (entry.Offers name) :=
  inferInstanceAs (Decidable (_ ∧ _))

/-- A table has a public entry of a name without arguments. -/
def Admits (table : List RuleEntry) (name : String) : Prop :=
  ∃ entry ∈ table, entry.Offers name ∧ entry.visibility = .everyone

/-- The first entry of a name without arguments in a table. -/
structure First (table : List RuleEntry) (name : String) (entry : RuleEntry)
    (after : List RuleEntry) : Prop where
  /-- The entry is of the name and has no arguments. -/
  offers : entry.Offers name
  /-- No entry before it is. -/
  split : ∃ before, table = before ++ entry :: after ∧ ∀ other ∈ before, ¬ other.Offers name

/-- The first entry of a name without arguments is internal, and a public one stands behind it. -/
def Hides (table : List RuleEntry) (name : String) : Prop :=
  ∃ entry after, First table name entry after ∧ entry.visibility = .internal ∧ Admits after name

variable {table after : List RuleEntry} {name : String} {entry : RuleEntry}

/-- An entry is not public when it is internal. -/
theorem isPublic_eq_false_iff : entry.isPublic = false ↔ entry.visibility = .internal := by
  unfold isPublic
  cases entry.visibility <;> decide

/-- Among the entries of a name, one without arguments is looked for as in the whole table. -/
theorem find?_candidates (table : List RuleEntry) (name : String) :
    (table.filter fun entry => entry.name == name).find? isEntryPoint =
      table.find? fun entry => decide (entry.Offers name) := by
  rw [List.find?_filter]
  congr 1
  funext entry
  rw [Bool.eq_iff_iff]
  simp only [decide_eq_true_iff]
  simp [Offers, isEntryPoint]

/-- The first entry of a name without arguments is the one that is found. -/
theorem First.find?_eq (first : First table name entry after) :
    table.find? (fun entry => decide (entry.Offers name)) = some entry := by
  obtain ⟨before, rfl, others⟩ := first.split
  rw [List.find?_eq_some_iff_append]
  exact ⟨decide_eq_true first.offers, before, after, rfl, fun other member => by
    simpa using others other member⟩

/-- A table has a first entry of a name without arguments, or none at all. -/
theorem none_or_first (table : List RuleEntry) (name : String) :
    (∀ entry ∈ table, ¬ entry.Offers name) ∨ ∃ entry after, First table name entry after := by
  cases found : table.find? fun entry => decide (entry.Offers name) with
  | none =>
    rw [List.find?_eq_none] at found
    exact .inl fun entry member => by simpa using found entry member
  | some entry =>
    obtain ⟨offers, before, after, split, others⟩ := List.find?_eq_some_iff_append.1 found
    refine .inr ⟨entry, after, of_decide_eq_true offers, before, split, fun other member => ?_⟩
    simpa using others other member

/-- Without an entry of the name that has no arguments, there is no such rule. -/
theorem admit_of_none (none : ∀ entry ∈ table, ¬ entry.Offers name) :
    ∃ detail, RuleEntry.admit table name = .error (.noSuchRule name detail) := by
  have missing : table.find? (fun entry => decide (entry.Offers name)) = Option.none := by
    rw [List.find?_eq_none]
    exact fun entry member => by simpa using none entry member
  unfold RuleEntry.admit
  dsimp only
  rw [find?_candidates, missing]
  cases table.filter fun entry => entry.name == name with
  | nil => exact ⟨_, rfl⟩
  | cons candidate others => exact ⟨_, rfl⟩

/-- The first entry of the name without arguments decides. -/
theorem First.admit_eq (first : First table name entry after) :
    RuleEntry.admit table name =
      if entry.isPublic then .ok () else .error (.inaccessible name) := by
  unfold RuleEntry.admit
  dsimp only
  rw [find?_candidates, first.find?_eq]

/-- Where the first entry of a name without arguments is public, none is hidden. -/
theorem First.not_hides (first : First table name entry after)
    (everyone : entry.visibility = .everyone) : ¬ Hides table name := by
  rintro ⟨other, others, again, internal, -⟩
  have same := first.find?_eq.symm.trans again.find?_eq
  rw [Option.some.inj same, internal] at everyone
  cases everyone

/-- Where the first entry of a name without arguments is internal, every public one is hidden. -/
theorem First.hides (first : First table name entry after)
    (internal : entry.visibility = .internal) (admits : Admits table name) :
    Hides table name := by
  refine ⟨entry, after, first, internal, ?_⟩
  obtain ⟨before, rfl, others⟩ := first.split
  obtain ⟨found, member, offers, everyone⟩ := admits
  rcases List.mem_append.1 member with early | late
  · exact absurd offers (others found early)
  · rcases List.mem_cons.1 late with rfl | later
    · rw [internal] at everyone
      cases everyone
    · exact ⟨found, later, offers, everyone⟩

/-- A table admits a call when it has a public entry of the name without arguments that is not
hidden. -/
theorem admit_eq_ok_iff :
    RuleEntry.admit table name = .ok () ↔ Admits table name ∧ ¬ Hides table name := by
  rcases none_or_first table name with none | ⟨entry, after, first⟩
  · obtain ⟨detail, refused⟩ := admit_of_none none
    rw [refused]
    refine iff_of_false nofun ?_
    rintro ⟨⟨entry, member, offers, -⟩, -⟩
    exact none entry member offers
  · rw [first.admit_eq]
    cases open' : entry.isPublic with
    | true =>
      have everyone : entry.visibility = .everyone := by simpa [isPublic] using open'
      obtain ⟨before, split, -⟩ := first.split
      have member : entry ∈ table := by simp [split]
      exact iff_of_true rfl
        ⟨⟨entry, member, first.offers, everyone⟩, first.not_hides everyone⟩
    | false =>
      refine iff_of_false nofun ?_
      rintro ⟨admits, unhidden⟩
      exact unhidden (first.hides (isPublic_eq_false_iff.1 open') admits)

/-- There is no such rule when no entry of the name is without arguments. -/
theorem admit_eq_noSuchRule_iff :
    (∃ detail, RuleEntry.admit table name = .error (.noSuchRule name detail)) ↔
      ∀ entry ∈ table, ¬ entry.Offers name := by
  rcases none_or_first table name with none | ⟨entry, after, first⟩
  · exact iff_of_true (admit_of_none none) none
  · refine iff_of_false ?_ fun none => ?_
    · rw [first.admit_eq]
      split <;> exact nofun
    · obtain ⟨before, split, -⟩ := first.split
      exact none entry (by simp [split]) first.offers

/-- A table admits a call, has no rule for it, or has one that may not be called. -/
theorem admit_cases (table : List RuleEntry) (name : String) :
    RuleEntry.admit table name = .ok () ∨
      (∃ detail, RuleEntry.admit table name = .error (.noSuchRule name detail)) ∨
      RuleEntry.admit table name = .error (.inaccessible name) := by
  rcases none_or_first table name with none | ⟨entry, after, first⟩
  · exact .inr (.inl (admit_of_none none))
  · rw [first.admit_eq]
    split
    · exact .inl rfl
    · exact .inr (.inr rfl)

/-- A rule may not be called when entries of the name are without arguments, but none of them is
public and not hidden. -/
theorem admit_eq_inaccessible_iff :
    RuleEntry.admit table name = .error (.inaccessible name) ↔
      (∃ entry ∈ table, entry.Offers name) ∧ ¬ (Admits table name ∧ ¬ Hides table name) := by
  have offered : (∃ entry ∈ table, entry.Offers name) ↔
      ¬ ∃ detail, RuleEntry.admit table name = .error (.noSuchRule name detail) := by
    simp [admit_eq_noSuchRule_iff]
  rw [offered, ← admit_eq_ok_iff]
  rcases admit_cases table name with admitted | ⟨detail, missing⟩ | refused
  · simp [admitted]
  · simp [missing]
  · simp [refused]

end RuleEntry

/-! ## Calls -/

namespace Parser

variable {parser : Parser} {name : String}

/-- What the rule of a name makes of the source when it is run. -/
def ruling (parser : Parser) (name : String) : Except InvocationError SourceResult :=
  match (parser.invoke name).1 with
  | .ok () => .ok (.accepted parser.sourceName)
  | .error (.cancelled cause) => .ok (.rejected parser.sourceName cause)
  | .error (.internal message) => .error (.unexpectedFailure name message)
  | .error (.crashed crash) => .error (.crashed name crash.text)

/-- A test runs the rule of a name: what the rules do matters to the test. -/
def Runs (parser : Parser) (name : String) : Prop :=
  ∃ rules : String → Rule Unit, test { parser with rule := rules } name ≠ parser.test name

/-- A test that is admitted yields what the rule makes of the source. -/
theorem yields_of_admitted (admitted : RuleEntry.admit parser.table name = .ok ()) :
    (parser.test name).Yields (parser.ruling name) := by
  have same : parser.verdict name = parser.ruling name := by
    rw [verdict, admitted]
    rfl
  exact same ▸ parser.yields_test name

/-- A test that is refused enters the reason and fails with it. -/
theorem test_of_refuse {error : InvocationError}
    (refused : RuleEntry.admit parser.table name = .error error) :
    parser.test name =
      ExceptT.mk (Log.withFile parser.sourceName (refuse error [("rule", name)]).run) := by
  unfold test call
  rw [refused]

/-- A test that is refused yields the reason. -/
theorem yields_of_refuse {error : InvocationError}
    (refused : RuleEntry.admit parser.table name = .error error) :
    (parser.test name).Yields (.error error) := by
  rw [test_of_refuse refused]
  exact ((Attempt.Yields.throw error).emit _ _).withFile _

/-- A test that is refused runs no rule. -/
theorem not_runs_of_refuse {error : InvocationError}
    (refused : RuleEntry.admit parser.table name = .error error) : ¬ parser.Runs name := by
  rintro ⟨rules, differs⟩
  have again : RuleEntry.admit (Parser.mk parser.table rules parser.state).table name =
      .error error := refused
  exact differs ((test_of_refuse again).trans (test_of_refuse refused).symm)

/-- A test that is admitted runs the rule. -/
theorem runs_of_admitted (admitted : RuleEntry.admit parser.table name = .ok ()) :
    parser.Runs name := by
  let accepting : Parser := { parser with rule := fun _ => pure () }
  let failing : Parser := { parser with rule := fun _ => throw (.internal "") }
  have accepted : (accepting.test name).Yields (.ok (.accepted parser.sourceName)) :=
    @yields_of_admitted accepting name admitted
  have failed : (failing.test name).Yields (.error (.unexpectedFailure name "")) :=
    @yields_of_admitted failing name admitted
  by_cases same : accepting.test name = parser.test name
  · refine ⟨failing.rule, fun again => ?_⟩
    change failing.test name = parser.test name at again
    rw [again, ← same] at failed
    cases accepted.unique failed
  · exact ⟨accepting.rule, same⟩

/-- What a rule that is run makes of the source is no error of admission. -/
theorem ruling_ne_refusal {error : InvocationError}
    (refusal : (∃ detail, error = .noSuchRule name detail) ∨ error = .inaccessible name) :
    parser.ruling name ≠ .error error := by
  unfold ruling
  rcases refusal with ⟨detail, rfl⟩ | rfl
  · split <;> exact nofun
  · split <;> exact nofun

/-- A test yields an error of admission just when the table refuses the call with it. -/
theorem yields_refusal_iff {error : InvocationError}
    (refusal : (∃ detail, error = .noSuchRule name detail) ∨ error = .inaccessible name) :
    (parser.test name).Yields (.error error) ↔
      RuleEntry.admit parser.table name = .error error := by
  refine ⟨fun yields => ?_, yields_of_refuse⟩
  cases admitted : RuleEntry.admit parser.table name with
  | error other =>
    obtain rfl := Except.error.inj ((yields_of_refuse admitted).unique yields)
    rfl
  | ok value =>
    have ruled := (yields_of_admitted admitted).unique yields
    exact absurd ruled (ruling_ne_refusal refusal)

/-- A test runs the rule of a name just when the table has a public entry of that name without
arguments and the first one without arguments is not internal. It then comes to what the rule makes
of the source. Otherwise no rule is run: there is no such rule when no entry of the name is without
arguments, and the rule may not be called when there are such entries. -/
theorem runs_iff (parser : Parser) (name : String) :
    (parser.Runs name ↔
        RuleEntry.Admits parser.table name ∧ ¬ RuleEntry.Hides parser.table name) ∧
      (parser.Runs name → (parser.test name).Yields (parser.ruling name)) ∧
      ((∃ detail, (parser.test name).Yields (.error (.noSuchRule name detail))) ↔
        ∀ entry ∈ parser.table, ¬ entry.Offers name) ∧
      ((parser.test name).Yields (.error (.inaccessible name)) ↔
        (∃ entry ∈ parser.table, entry.Offers name) ∧
          ¬ (RuleEntry.Admits parser.table name ∧ ¬ RuleEntry.Hides parser.table name)) := by
  have runs : parser.Runs name ↔ RuleEntry.admit parser.table name = .ok () := by
    refine ⟨fun runs => ?_, runs_of_admitted⟩
    cases admitted : RuleEntry.admit parser.table name with
    | ok value => rfl
    | error error => exact absurd runs (not_runs_of_refuse admitted)
  refine ⟨runs.trans RuleEntry.admit_eq_ok_iff, fun run => ?_, ?_, ?_⟩
  · exact yields_of_admitted (runs.1 run)
  · rw [← RuleEntry.admit_eq_noSuchRule_iff]
    exact exists_congr fun detail => yields_refusal_iff (.inl ⟨detail, rfl⟩)
  · rw [yields_refusal_iff (.inr rfl)]
    exact RuleEntry.admit_eq_inaccessible_iff

/-- A parser with a public rule behind an internal one of the same name, both without arguments. -/
def overloaded : Parser where
  table := [⟨"r", .internal, 0⟩, ⟨"r", .everyone, 0⟩]
  rule _ := pure ()
  state := .ofInput [] (.ofSource (.script "s" []))

/-- A public rule behind an internal one of the same name is not run. -/
theorem not_runs_overloaded :
    RuleEntry.Admits overloaded.table "r" ∧ ¬ overloaded.Runs "r" ∧
      (overloaded.test "r").Yields (.error (.inaccessible "r")) := by
  have refused : RuleEntry.admit overloaded.table "r" = .error (.inaccessible "r") := rfl
  have admits : RuleEntry.Admits overloaded.table "r" :=
    ⟨⟨"r", .everyone, 0⟩, by decide, by decide, rfl⟩
  exact ⟨admits, not_runs_of_refuse refused, (yields_refusal_iff (.inr rfl)).2 refused⟩

end Parser

end Conformance
