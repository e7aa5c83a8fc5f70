import Conformance.CommandLine.Program
import Conformance.Proofs.CommandLine.Layering

/-!
# Skipped runs

When the settings say that nothing is tested, a run looks at nothing else. The program does look at
the other settings first: it has to have settings at all, and those that make no sense are an
error. So the two agree exactly for settings that make sense.
-/

namespace Conformance

/-- A run that is to be skipped is, whatever its other settings hold. -/
theorem Run.yields_execute_of_skip {run : Run} (skip : run.settings.skip = true) :
    run.execute.Yields (.ok .skipped) := by
  unfold execute
  rw [if_pos skip]
  exact (Log.Attempt.Yields.pure _).emit _ _

/-- The grammars of the program can be published. -/
theorem exists_linkedGrammars : ∃ registry, linkedGrammars = .ok registry :=
  ⟨_, rfl⟩

namespace CommandLine

variable {line : CommandLine} {surroundings : Surroundings} {stated : Settings.Stated}

/-- The program succeeds and says nothing but that the run is skipped. -/
structure Skips (line : CommandLine) (surroundings : Surroundings) : Prop where
  /-- The exit status is that of success. -/
  status : (line.execute surroundings).1.number = 0
  /-- A notice is written to the standard output. -/
  out : (line.execute surroundings).2.outText = "Execution skipped.\n"
  /-- Nothing is written to the standard error. -/
  err : (line.execute surroundings).2.errText = ""

/-- A command line that does not list the symbols comes down to what its settings say. -/
theorem plan_eq (listing : line.listSymbols = false) (surroundings : Surroundings) :
    ∃ registry, line.plan surroundings =
      (line.settings surroundings.environment surroundings.tree).map fun settings =>
        if settings.skip then .skip else .test ⟨settings, registry, surroundings.tree⟩ := by
  obtain ⟨registry, linked⟩ := exists_linkedGrammars
  refine ⟨registry, ?_⟩
  rw [plan, linked]
  simp only [listing, bind, Except.bind, pure, Except.pure, Bool.false_eq_true, if_false]
  cases line.settings surroundings.environment surroundings.tree with
  | error error => rfl
  | ok settings => exact (apply_ite Except.ok _ _ _).symm

/-- A command line without settings fails with the reason. -/
theorem execute_of_error {error : CommandError} (listing : line.listSymbols = false)
    (failed : line.settings surroundings.environment surroundings.tree = .error error) :
    line.execute surroundings = (.failed, .ofErr error.event.line) := by
  obtain ⟨registry, planned⟩ := plan_eq listing surroundings
  rw [execute, planned, failed]
  rfl

/-- A command line whose settings say so is skipped. -/
theorem execute_of_skip {settings : Settings} (listing : line.listSymbols = false)
    (given : line.settings surroundings.environment surroundings.tree = .ok settings)
    (skip : settings.skip = true) :
    line.execute surroundings = (.passed, .ofOut skipNotice) := by
  obtain ⟨registry, planned⟩ := plan_eq listing surroundings
  rw [execute, planned, given]
  simp only [Except.map, skip, if_true]

/-- For a command line whose settings say that nothing is tested, a run on these settings is
skipped, and the program says so and succeeds exactly when the other settings make sense. If they
do not, it fails with what is wrong with them. -/
theorem skips_iff (checked : line.check = .ok ()) (listing : line.listSymbols = false)
    (states : line.FileStates surroundings.environment surroundings.tree stated)
    (skip : (line.layered surroundings.environment stated).skip = true) :
    (∀ registry tree,
        (Run.execute ⟨line.layered surroundings.environment stated, registry, tree⟩).Yields
          (.ok .skipped)) ∧
      (line.Skips surroundings ↔ (line.layered surroundings.environment stated).Sensible) ∧
      ∀ error, (line.layered surroundings.environment stated).validate = .error error →
        line.execute surroundings = (.failed, .ofErr (CommandError.settings error).event.line) := by
  have failing : ∀ error, (line.layered surroundings.environment stated).validate = .error error →
      line.execute surroundings = (.failed, .ofErr (CommandError.settings error).event.line) := by
    intro error invalid
    refine execute_of_error listing ?_
    rw [settings_eq checked states, invalid]
    rfl
  refine ⟨fun registry tree => Run.yields_execute_of_skip skip,
    ⟨fun skips => ?_, fun sensible => ?_⟩, failing⟩
  · cases outcome : (line.layered surroundings.environment stated).validate with
    | ok passed => exact Settings.validate_eq_ok_iff.1 outcome
    | error error =>
      have status := skips.status
      rw [failing error outcome] at status
      cases status
  · have given := (settings_eq_ok_iff checked states).2 ⟨rfl, sensible⟩
    have executed := execute_of_skip listing given skip
    exact ⟨by rw [executed]; rfl, by rw [executed]; decide +kernel, by rw [executed]; rfl⟩

/-- A command line that skips a test of Snafu from a rule. -/
def skipping (rule : String) : CommandLine :=
  { CommandLine.empty with startRule := some rule, grammar := some "Snafu", skip := true }

/-- A test from a rule that does not exist is skipped. -/
theorem skips_iff_unknownRule :
    (skipping "nowhere").check = .ok () ∧ (skipping "nowhere").Skips default := by
  refine ⟨rfl, ((skips_iff rfl rfl (.without rfl) rfl).2.1).2 ⟨?_, ?_, ?_, ?_⟩⟩
  · decide
  · decide
  · decide
  · decide

/-- A test from a blank rule is skipped as a run, but fails as a command line. -/
theorem not_skips_blankRule :
    CommandLine.ofWords ["--start-rule", "", "--grammar", "Snafu", "--skip"] = .ok (skipping "") ∧
      (skipping "").check = .ok () ∧ (skipping "").listSymbols = false ∧
      (skipping "").FileStates ⟨[]⟩ ⟨.directory [], []⟩ .nothing ∧
      ((skipping "").layered ⟨[]⟩ .nothing).skip = true ∧
      ¬(skipping "").Skips ⟨⟨[]⟩, ⟨.directory [], []⟩, default⟩ := by
  refine ⟨by decide +kernel, rfl, rfl, .without rfl, rfl, fun skips => ?_⟩
  have executed : (skipping "").execute ⟨⟨[]⟩, ⟨.directory [], []⟩, default⟩ =
      (.failed, .ofErr (CommandError.settings
        (.invalid "start_rule" "must not be empty")).event.line) :=
    execute_of_error rfl rfl
  have status := skips.status
  rw [executed] at status
  cases status

end CommandLine

end Conformance
