import Conformance.Grammar.Snafu.Publication
import Conformance.Proofs.Recognition.Admission
import Conformance.Proofs.Run.Composition
import Conformance.Proofs.Text.Padding

/-!
# Settings with blanks around them

The grammar, its namespace and the encoding are looked up without the blanks around them, and the
check of the settings does not see the blanks around the start rule either. But the start rule is
called as it stands. So blanks around the other settings change nothing in a run but the label that
an error quotes, and blanks around the start rule break every run that comes to call it.
-/

namespace Conformance

/-! ## Outcomes that are alike -/

/-- Two outcomes are alike: they return the same value, or fail with errors that read the same. -/
inductive Alike {ε δ α : Type} (read : ε → δ) : Except ε α → Except ε α → Prop where
  /-- Both return. -/
  | returned (value : α) : Alike read (.ok value) (.ok value)
  /-- Both fail. -/
  | failed {error other : ε} (same : read error = read other) :
    Alike read (.error error) (.error other)

namespace Alike

variable {ε δ ε' δ' α β γ : Type} {read : ε → δ} {read' : ε' → δ'} {outcome other : Except ε α}

/-- An outcome is like itself. -/
theorem refl (outcome : Except ε α) : Alike read outcome outcome := by
  cases outcome with
  | ok value => exact .returned value
  | error error => exact .failed rfl

/-- Outcomes that are alike are alike in other words, if these keep what is read. -/
theorem mapError (alike : Alike read outcome other) {reword : ε → ε'}
    (keeps : ∀ error error', read error = read error' →
      read' (reword error) = read' (reword error')) :
    Alike read' (outcome.mapError reword) (other.mapError reword) := by
  cases alike with
  | returned value => exact .returned value
  | failed same => exact .failed (keeps _ _ same)

/-- Less can be read from errors. -/
theorem mono {less : ε → δ'} (alike : Alike read outcome other)
    (keeps : ∀ error error', read error = read error' → less error = less error') :
    Alike less outcome other := by
  cases alike with
  | returned value => exact .returned value
  | failed same => exact .failed (keeps _ _ same)

/-- Going on alike keeps outcomes alike. -/
theorem bind {next further : α → Except ε β} (alike : Alike read outcome other)
    (onward : ∀ value, Alike read (next value) (further value)) :
    Alike read (outcome >>= next) (other >>= further) := by
  cases alike with
  | returned value => exact onward value
  | failed same => exact .failed same

/-- What is like a value is that value. -/
theorem eq_ok {value : α} (alike : Alike read (.ok value) other) : other = .ok value := by
  cases alike with
  | returned => rfl

/-- What is like an error is an error that reads the same. -/
theorem exists_error {error : ε} (alike : Alike read (.error error) other) :
    ∃ error', other = .error error' ∧ read error = read error' := by
  cases alike with
  | failed same => exact ⟨_, rfl, same⟩

/-- What becomes of alike outcomes is alike. -/
theorem map (alike : Alike read outcome other) (f : α → β) :
    Alike read (outcome.map f) (other.map f) := by
  cases alike with
  | returned value => exact .returned (f value)
  | failed same => exact .failed same

/-- Steps that are alike on each element are alike on a list. -/
theorem mapM {step other : γ → Except ε α} (alike : ∀ x, Alike read (step x) (other x))
    (xs : List γ) : Alike read (xs.mapM step) (xs.mapM other) := by
  induction xs with
  | nil => exact .returned []
  | cons x xs ih =>
    rw [List.mapM_cons, List.mapM_cons]
    exact (alike x).bind fun y => ih.bind fun ys => .returned (y :: ys)

end Alike

/-! ## Errors -/

/-- An error without the label that it quotes. -/
def SourceError.unlabelled : SourceError → SourceError
  | .unsupportedEncoding path _ => .unsupportedEncoding path ""
  | other => other

/-- An error without the label that it quotes. -/
def AssemblyError.unlabelled : AssemblyError → AssemblyError
  | .source error => .source error.unlabelled
  | .construction error => .construction error

namespace RunError

/-- An error without the label that it quotes. -/
def unlabelled : RunError → RunError
  | .assembly error => .assembly error.unlabelled
  | other => other

/-- The stages at which a run can fail. -/
inductive Stage where
  /-- The settings are looked at. -/
  | settings
  /-- The sources are looked for. -/
  | discovery
  /-- The implementations are looked for. -/
  | resolution
  /-- A parser is set up. -/
  | assembly
  /-- The start rule is called. -/
  | invocation
  deriving DecidableEq

/-- The stage at which an error ends a run. -/
def stage : RunError → Stage
  | .settings _ => .settings
  | .discovery _ => .discovery
  | .resolution _ => .resolution
  | .assembly _ => .assembly
  | .invocation _ => .invocation

/-- The label that an error quotes does not matter to its stage. -/
theorem stage_unlabelled (error : RunError) : error.unlabelled.stage = error.stage := by
  cases error <;> rfl

/-- Errors that are the same without labels are of one stage. -/
theorem stage_eq {error other : RunError} (same : error.unlabelled = other.unlabelled) :
    error.stage = other.stage := by
  rw [← stage_unlabelled, same, stage_unlabelled]

/-- An outcome is like a failed call of the start rule just when it is one. -/
theorem alike_invocation_iff {α : Type} {outcome : Except RunError α}
    {failure : InvocationError} :
    Alike stage outcome (.error (.invocation failure)) ↔
      ∃ error, outcome = .error (.invocation error) := by
  constructor
  · intro alike
    cases alike with
    | @failed error _ stages =>
      cases error with
      | invocation error => exact ⟨error, rfl⟩
      | settings error => cases stages
      | discovery error => cases stages
      | resolution error => cases stages
      | assembly error => cases stages
  · rintro ⟨error, rfl⟩
    exact .failed rfl

end RunError

/-! ## Settings -/

/-- Settings that differ only by blanks added around the start rule, the grammar, its namespace and
the encoding. -/
structure Settings.Padded (settings padded : Settings) : Prop where
  /-- Blanks may be added around the start rule. -/
  startRule : Text.Padded settings.startRule padded.startRule
  /-- They may be added around the grammar. -/
  grammar : Text.Padded settings.grammar padded.grammar
  /-- They may be added around its namespace. -/
  scope : Text.Padded settings.scope padded.scope
  /-- They may be added around the encoding. -/
  encoding : Text.Padded settings.encoding padded.encoding
  /-- The flag to skip is the same. -/
  skip : padded.skip = settings.skip
  /-- The sources are the same. -/
  fileSets : padded.fileSets = settings.fileSets
  /-- The log shows the same. -/
  logging : padded.logging = settings.logging

namespace Settings.Padded

variable {settings padded : Settings}

/-- Blanks do not change the identity of the grammar. -/
theorem identity_eq (padding : settings.Padded padded) : padded.identity = settings.identity := by
  unfold identity GrammarIdentity.ofNames GrammarIdentity.ofNames?
  rw [padding.scope.trim_eq, padding.grammar.trim_eq]

/-- Blanks do not change what the check of settings says. -/
theorem validate_eq (padding : settings.Padded padded) : padded.validate = settings.validate := by
  unfold validate
  rw [padding.startRule.isAllBlank_eq, padding.encoding.isAllBlank_eq, padding.fileSets,
    padding.identity_eq]

end Settings.Padded

/-- Blanks around a label do not change the encoding that it asks for. -/
theorem Encoding.ofLabel?_padded {label padded : String} (padding : Text.Padded label padded) :
    ofLabel? padded = ofLabel? label := by
  rw [ofLabel?, ofLabel?, padding.trim_eq]

/-! ## Sources -/

section Sources

variable {label padded : String} (padding : Text.Padded label padded) (tree : FileTree)
  (path : String)

include padding

/-- With blanks around the label a file is decoded alike. -/
theorem SourceFile.alike_decode :
    Alike SourceError.unlabelled (SourceFile.decode ⟨path, label⟩ tree)
      (SourceFile.decode ⟨path, padded⟩ tree) := by
  have same : SourceFile.content ⟨path, padded⟩ tree = SourceFile.content ⟨path, label⟩ tree := rfl
  unfold SourceFile.decode
  rw [Encoding.ofLabel?_padded padding, same]
  cases Encoding.ofLabel? label with
  | none => exact .failed rfl
  | some encoding => exact Alike.refl _

/-- With blanks around the label a parser is set up alike. -/
theorem Assembly.alike_parserOf (assembly : Assembly) :
    Alike AssemblyError.unlabelled (assembly.parserOf tree ⟨path, label⟩)
      (assembly.parserOf tree ⟨path, padded⟩) := by
  have decoded : Alike AssemblyError.unlabelled
      ((SourceFile.decode ⟨path, label⟩ tree).mapError AssemblyError.source)
      ((SourceFile.decode ⟨path, padded⟩ tree).mapError AssemblyError.source) :=
    (SourceFile.alike_decode padding tree path).mapError
      fun _ _ same => congrArg AssemblyError.source same
  exact decoded.bind fun _ => Alike.refl _

end Sources

/-! ## Runs -/

namespace Run

section

variable {settings padded : Settings} (padding : settings.Padded padded) (registry : Registry)
  (tree : FileTree)

include padding

/-- The implementations of a grammar are found all the same. -/
theorem assembly?_padded :
    assembly? ⟨padded, registry, tree⟩ = assembly? ⟨settings, registry, tree⟩ := by
  unfold assembly?
  rw [padding.identity_eq]
  rfl

/-- Under the same start rule, sources have alike results. -/
theorem returns_alike (same : padded.startRule = settings.startRule) (paths : List String)
    (journal : Log.Journal) :
    Alike RunError.unlabelled (returns ⟨settings, registry, tree⟩ paths journal)
      (returns ⟨padded, registry, tree⟩ paths journal) := by
  have judged (assembly : Assembly) (path : String) : Alike RunError.unlabelled
      (judge ⟨settings, registry, tree⟩ assembly path)
      (judge ⟨padded, registry, tree⟩ assembly path) := by
    have prepared : Alike RunError.unlabelled
        ((assembly.parserOf tree ⟨path, settings.encoding⟩).mapError RunError.assembly)
        ((assembly.parserOf tree ⟨path, padded.encoding⟩).mapError RunError.assembly) :=
      (assembly.alike_parserOf padding.encoding tree path).mapError
        fun _ _ same => congrArg RunError.assembly same
    unfold judge
    rw [same]
    exact prepared.bind fun parser => Alike.refl _
  rw [returns_eq, returns_eq, answer, answer, assembly?_padded padding]
  apply Alike.map
  exact (Alike.refl _).bind fun assembly => Alike.mapM (judged assembly) paths

end

/-- A run calls its start rule: there is a first source, and a parser for it. -/
def Calls (run : Run) (paths : List String) : Prop :=
  ∃ path rest assembly parser, paths = path :: rest ∧ run.assembly? = .ok assembly ∧
    assembly.parserOf run.tree ⟨path, run.settings.encoding⟩ = .ok parser

/-- A run that does not call its start rule returns nothing that depends on it. -/
theorem returns_alike_of_not_calls {settings padded : Settings} (padding : settings.Padded padded)
    (registry : Registry) (tree : FileTree) {paths : List String}
    (uncalled : ¬Calls ⟨settings, registry, tree⟩ paths) (journal : Log.Journal) :
    Alike RunError.unlabelled (returns ⟨settings, registry, tree⟩ paths journal)
      (returns ⟨padded, registry, tree⟩ paths journal) := by
  rw [returns_eq, returns_eq, answer, answer, assembly?_padded padding]
  apply Alike.map
  cases found : assembly? ⟨settings, registry, tree⟩ with
  | error error => exact .failed rfl
  | ok assembly =>
    cases paths with
    | nil => exact .returned []
    | cons path rest =>
      have prepared := assembly.alike_parserOf padding.encoding tree path
      cases unbuilt : assembly.parserOf tree ⟨path, settings.encoding⟩ with
      | ok parser => exact absurd ⟨path, rest, assembly, parser, rfl, found, unbuilt⟩ uncalled
      | error error =>
        rw [unbuilt] at prepared
        obtain ⟨error', unbuilt', same⟩ := prepared.exists_error
        have judged : judge ⟨settings, registry, tree⟩ assembly path =
            .error (.assembly error) := by
          rw [judge, unbuilt]
          rfl
        have judged' : judge ⟨padded, registry, tree⟩ assembly path =
            .error (.assembly error') := by
          rw [judge, unbuilt']
          rfl
        change Alike _ (List.mapM _ _) (List.mapM _ _)
        rw [List.mapM_cons, List.mapM_cons, judged, judged']
        exact .failed (congrArg RunError.assembly same)

/-- No rule of Snafu or Word has a name with blanks around it. -/
theorem trim_name {grammar : Grammar} (known : grammar = Snafu.grammar ∨ grammar = Word.grammar) :
    ∀ entry ∈ grammar.table, Text.trim entry.name = entry.name := by
  rcases known with rfl | rfl
  · decide
  · decide

/-- A run that calls a start rule with blanks around it fails, because there is no such rule. -/
theorem returns_of_calls {settings padded : Settings} (padding : settings.Padded padded)
    (added : padded.startRule ≠ settings.startRule) {registry : Registry} (known : registry.Known)
    {tree : FileTree} {paths : List String} (calls : Calls ⟨settings, registry, tree⟩ paths)
    (journal : Log.Journal) : ∃ detail, returns ⟨padded, registry, tree⟩ paths journal =
      .error (.invocation (.noSuchRule padded.startRule detail)) := by
  obtain ⟨path, rest, assembly, parser, rfl, found, prepared⟩ := calls
  obtain ⟨grammar, language, offers⟩ := (known_of_assembly? known found).offers prepared
  have nameless : ∀ entry ∈ parser.table, ¬entry.Offers padded.startRule := by
    rintro entry member ⟨named, -⟩
    rw [offers.table] at member
    apply padding.startRule.trim_ne added
    rw [← named]
    exact trim_name language entry member
  obtain ⟨detail, refused⟩ := RuleEntry.admit_of_none nameless
  have built : assembly.parserOf tree ⟨path, padded.encoding⟩ = .ok parser := by
    have alike := assembly.alike_parserOf padding.encoding tree path
    rw [prepared] at alike
    exact alike.eq_ok
  have judged : judge ⟨padded, registry, tree⟩ assembly path =
      .error (.invocation (.noSuchRule padded.startRule detail)) := by
    rw [judge, built]
    change (parser.verdict padded.startRule).mapError RunError.invocation = _
    rw [Parser.verdict, refused]
    rfl
  refine ⟨detail, ?_⟩
  rw [returns_eq, answer, assembly?_padded padding, found]
  change Except.map _ (List.mapM _ _) = _
  rw [List.mapM_cons, judged]
  rfl

/-- Blanks around the start rule, the grammar, its namespace and the encoding pass the check of the
settings as the settings without them do. Around the last three they do no harm in a run, which
returns the same or fails with the same error but for the label that it quotes. Around the start
rule they break a run that comes to call it, so runs are alike just when the start rule is as it
was, is not called, or ends the run with an error without them too. -/
theorem padding_harmless_iff {settings padded : Settings} (valid : settings.validate = .ok ())
    (padding : settings.Padded padded) :
    padded.validate = .ok () ∧
    ∀ (registry : Registry) (tree : FileTree) (paths : List String) (journal : Log.Journal),
      let run : Run := ⟨settings, registry, tree⟩
      let other : Run := ⟨padded, registry, tree⟩
      (padded.startRule = settings.startRule →
        Alike RunError.unlabelled (run.returns paths journal) (other.returns paths journal)) ∧
      (registry.Known →
        (padded.startRule ≠ settings.startRule → run.Calls paths →
          ∃ detail, other.returns paths journal =
            .error (.invocation (.noSuchRule padded.startRule detail))) ∧
        (Alike RunError.stage (run.returns paths journal) (other.returns paths journal) ↔
          padded.startRule = settings.startRule ∨ ¬run.Calls paths ∨
            ∃ error, run.returns paths journal = .error (.invocation error))) := by
  refine ⟨padding.validate_eq.trans valid, fun registry tree paths journal => ?_⟩
  intro run other
  have kept (same : padded.startRule = settings.startRule) :=
    returns_alike padding registry tree same paths journal
  refine ⟨kept, fun known => ?_⟩
  have broken (added : padded.startRule ≠ settings.startRule) (calls : run.Calls paths) :=
    returns_of_calls padding added known calls journal
  refine ⟨broken, ?_⟩
  by_cases same : padded.startRule = settings.startRule
  · have alike := (kept same).mono fun _ _ => RunError.stage_eq
    exact iff_of_true alike (.inl same)
  by_cases calls : run.Calls paths
  · obtain ⟨detail, failed⟩ := broken same calls
    rw [failed, RunError.alike_invocation_iff]
    constructor
    · exact fun ended => .inr (.inr ended)
    · rintro (unpadded | uncalled | ended)
      · exact absurd unpadded same
      · exact absurd calls uncalled
      · exact ended
  · have alike := (returns_alike_of_not_calls padding registry tree calls journal).mono
      fun _ _ => RunError.stage_eq
    exact iff_of_true alike (.inr (.inl calls))

/-! ## A run on a single statement -/

/-- A statement that prints a number. -/
def printed : Content :=
  .bytes ⟨#[112, 114, 105, 110, 116, 32, 49, 59]⟩

/-- A run of Snafu on a file with that statement. -/
def ofPrint : Run where
  settings := ⟨"startRule", "Snafu", "foo.bar.baz", "utf-8", false, [], ⟨"info", false⟩⟩
  registry := ⟨Snafu.symbols⟩
  tree := ⟨.directory [("a.snf", .file printed)], []⟩

/-- The implementations of Snafu in that run. -/
def printAssembly : Assembly :=
  ⟨"foo.bar.baz.SnafuLexer", Snafu.lexerConstructor, "foo.bar.baz.SnafuParser",
    Snafu.parserConstructor⟩

/-- The implementations in the run are known. -/
theorem known_print : ofPrint.registry.Known := by
  intro symbol member construct built
  simp only [ofPrint, Snafu.symbols, List.mem_cons, List.not_mem_nil, or_false] at member
  rcases member with rfl | rfl | rfl
  · cases built
    exact .snafuLexer
  · cases built
    exact .snafuParser
  · cases built

/-- The implementations are found. -/
theorem assembly?_print : ofPrint.assembly? = .ok printAssembly := by
  rfl

/-- The file is decoded. -/
theorem decode_print : SourceFile.decode ⟨"a.snf", "utf-8"⟩ ofPrint.tree =
    .ok (.utf8, printed.data, "print 1;") :=
  @SourceFile.decode_name [("a.snf", .file printed)] "a.snf" "utf-8" "print 1;" printed .utf8 rfl
    (by decide) (by decide) (by decide) (by decide) (by decide) (by decide +kernel)
    (by decide +kernel)

/-- The start rule is called. -/
theorem calls_print : ofPrint.Calls ["a.snf"] := by
  refine ⟨"a.snf", [], printAssembly,
    (Snafu.grammar.parserOf (.ofText "a.snf" "print 1;")).withStrategy .failFast, rfl,
    assembly?_print, ?_⟩
  change printAssembly.parserOf ofPrint.tree ⟨"a.snf", "utf-8"⟩ = _
  rw [Assembly.parserOf, decode_print]
  rfl

/-- The file is accepted. -/
theorem returns_print (journal : Log.Journal) :
    ofPrint.returns ["a.snf"] journal = .ok ⟨#[.accepted "a.snf"]⟩ := by
  have judged : ofPrint.judge printAssembly "a.snf" = .ok (.accepted "a.snf") := by
    change (printAssembly.parserOf ofPrint.tree ⟨"a.snf", "utf-8"⟩).mapError _ >>= _ = _
    rw [Assembly.parserOf, decode_print]
    decide +kernel
  rw [returns_eq, answer, assembly?_print]
  change (["a.snf"].mapM (ofPrint.judge printAssembly)).map _ = _
  rw [List.mapM_cons, judged]
  rfl

/-- The settings of that run with a blank before the start rule. -/
def blankBeforeRule : Settings :=
  { ofPrint.settings with startRule := " startRule" }

/-- They differ by that blank only. -/
theorem padded_blankBeforeRule : ofPrint.settings.Padded blankBeforeRule where
  startRule := @Text.Padded.intro "startRule" " " "" rfl rfl
  grammar := .refl _
  scope := .refl _
  encoding := .refl _
  skip := rfl
  fileSets := rfl
  logging := rfl

/-- In that run, blanks around the grammar, its namespace and the encoding do no harm, and one
before the start rule does. -/
theorem padding_harmless_iff_print :
    (∀ journal, returns ⟨⟨"startRule", "\tSnafu", "foo.bar.baz ", "\nutf-8 ", false, [],
        ⟨"info", false⟩⟩, ofPrint.registry, ofPrint.tree⟩ ["a.snf"] journal =
          .ok ⟨#[.accepted "a.snf"]⟩) ∧
      blankBeforeRule.validate = .ok () ∧
        ∀ journal, ¬Alike RunError.stage (ofPrint.returns ["a.snf"] journal)
          (returns ⟨blankBeforeRule, ofPrint.registry, ofPrint.tree⟩ ["a.snf"] journal) := by
  have valid : ofPrint.settings.validate = .ok () := by decide +kernel
  have around : ofPrint.settings.Padded ⟨"startRule", "\tSnafu", "foo.bar.baz ", "\nutf-8 ", false,
      [], ⟨"info", false⟩⟩ :=
    ⟨.refl _, @Text.Padded.intro "Snafu" "\t" "" rfl rfl,
      @Text.Padded.intro "foo.bar.baz" "" " " rfl rfl,
      @Text.Padded.intro "utf-8" "\n" " " rfl rfl, rfl, rfl, rfl⟩
  have before := padding_harmless_iff valid padded_blankBeforeRule
  refine ⟨fun journal => ?_, before.1, fun journal alike => ?_⟩
  · have kept := ((padding_harmless_iff valid around).2 ofPrint.registry ofPrint.tree ["a.snf"]
      journal).1 rfl
    change Alike _ (ofPrint.returns ["a.snf"] journal) _ at kept
    rw [returns_print] at kept
    exact kept.eq_ok
  · have decided := ((before.2 ofPrint.registry ofPrint.tree ["a.snf"] journal).2
      known_print).2
    rcases decided.1 alike with same | uncalled | ⟨error, ended⟩
    · exact absurd same (by decide)
    · exact uncalled calls_print
    · cases (returns_print journal).symm.trans ended

/-- A blank before the start rule passes the check of the settings, but breaks a run that accepts
its file without it. -/
theorem not_padding_harmless :
    ¬∀ (settings padded : Settings) (registry : Registry) (tree : FileTree) (paths : List String)
        (journal : Log.Journal), settings.validate = .ok () → settings.Padded padded →
      padded.validate = .ok () ∧
        Alike RunError.stage (returns ⟨settings, registry, tree⟩ paths journal)
          (returns ⟨padded, registry, tree⟩ paths journal) := by
  intro harmless
  have added : blankBeforeRule.startRule ≠ ofPrint.settings.startRule := by decide
  have broken : ∃ detail, returns ⟨blankBeforeRule, ofPrint.registry, ofPrint.tree⟩ ["a.snf"]
      .empty = .error (.invocation (.noSuchRule blankBeforeRule.startRule detail)) :=
    returns_of_calls padded_blankBeforeRule added known_print calls_print .empty
  obtain ⟨detail, failed⟩ := broken
  have alike : Alike RunError.stage (ofPrint.returns ["a.snf"] .empty)
      (returns ⟨blankBeforeRule, ofPrint.registry, ofPrint.tree⟩ ["a.snf"] .empty) :=
    (harmless ofPrint.settings blankBeforeRule ofPrint.registry ofPrint.tree ["a.snf"] .empty
      (by decide +kernel) padded_blankBeforeRule).2
  rw [returns_print, failed] at alike
  cases alike

end Run

end Conformance
