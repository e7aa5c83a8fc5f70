import Conformance.CommandLine.Layering
import Conformance.Proofs.Files.Tree
import Conformance.Proofs.Settings.Stated
import Conformance.Settings.File
import Mathlib

/-!
# Where each setting comes from

A setting of a command line is looked for in the command line itself, in its settings file and in
the environment, and has a default. The environment comes ahead of the file for the encoding and
for the flag to skip, and after it for the log. Only the settings that come out of all this are
checked.
-/

namespace Conformance

/-! ## Checked settings -/

/-- Nothing is left of a text without the blanks at its ends exactly when it holds nothing else. -/
theorem Text.isEmpty_trim (text : String) : (Text.trim text).isEmpty = Text.isAllBlank text := by
  have nothing : trimChars text.toList = [] ↔ ∀ c ∈ text.toList, isBlank c = true := by
    rw [trimChars, List.reverse_eq_nil_iff, List.dropWhile_eq_nil_iff]
    simp only [List.mem_reverse]
    constructor
    · intro blank
      refine List.dropWhile_eq_nil_iff.1 (by_contra fun left => ?_)
      have first := List.head_dropWhile_not isBlank left
      rw [blank _ (List.head_mem left)] at first
      cases first
    · exact fun blank c found => blank c ((List.dropWhile_sublist _).subset found)
  rw [Bool.eq_iff_iff, isAllBlank, List.all_eq_true, ← nothing, trim, String.isEmpty_iff,
    String.ofList_eq_empty_iff]

namespace Settings

/-- The settings make sense: what has to be named is not blank, and every file set has an include
pattern. -/
structure Sensible (settings : Settings) : Prop where
  /-- The start rule is named. -/
  startRule : Text.isAllBlank settings.startRule = false
  /-- The encoding is named. -/
  encoding : Text.isAllBlank settings.encoding = false
  /-- The grammar is named. -/
  grammar : Text.isAllBlank settings.grammar = false
  /-- Every file set includes something. -/
  includes : ∀ set ∈ settings.fileSets, set.includes ≠ []

/-- The grammar has an identity exactly when its name is not blank. -/
theorem exists_identity_iff {settings : Settings} :
    (∃ known, settings.identity = .ok known) ↔ Text.isAllBlank settings.grammar = false := by
  rw [← Text.isEmpty_trim, identity, GrammarIdentity.ofNames, GrammarIdentity.ofNames?]
  cases (Text.trim settings.grammar).isEmpty with
  | true => exact ⟨nofun, nofun⟩
  | false => exact ⟨fun _ => rfl, fun _ => ⟨_, rfl⟩⟩

/-- The check of settings, one setting after the other. -/
theorem validate_eq (settings : Settings) :
    settings.validate =
      if Text.isAllBlank settings.startRule then .error (.invalid "start_rule" "must not be empty")
      else if Text.isAllBlank settings.encoding then
        .error (.invalid "encoding" "must not be empty")
      else if settings.fileSets.any (·.includes.isEmpty) then
        .error (.invalid "fileset.includes" "must list at least one pattern")
      else settings.identity.map fun _ => () := by
  unfold validate
  split
  · rfl
  · split
    · rfl
    · split
      · rfl
      · cases settings.identity with
        | ok known => rfl
        | error error => rfl

/-- Settings pass their check exactly when they make sense. -/
theorem validate_eq_ok_iff {settings : Settings} :
    settings.validate = .ok () ↔ settings.Sensible := by
  rw [validate_eq]
  constructor
  · intro valid
    split at valid
    · cases valid
    next rule =>
    split at valid
    · cases valid
    next encoding =>
    split at valid
    · cases valid
    next includes =>
    have named : ∃ known, settings.identity = .ok known := by
      cases same : settings.identity with
      | ok known => exact ⟨known, rfl⟩
      | error error =>
        rw [same] at valid
        cases valid
    exact ⟨Bool.eq_false_iff.2 rule, Bool.eq_false_iff.2 encoding, exists_identity_iff.1 named,
      by simpa using includes⟩
  · intro sensible
    have includes : ¬settings.fileSets.any (·.includes.isEmpty) = true := by
      simpa using sensible.includes
    obtain ⟨known, named⟩ := exists_identity_iff.2 sensible.grammar
    rw [if_neg (Bool.eq_false_iff.1 sensible.startRule),
      if_neg (Bool.eq_false_iff.1 sensible.encoding), if_neg includes, named]
    rfl

end Settings

namespace CommandLine

variable {line : CommandLine} {environment : Environment} {tree : FileTree}
  {stated : Settings.Stated}

/-- What the settings file of a command line says, if the file can be read and understood. Without
a file nothing is said. -/
inductive FileStates (line : CommandLine) (environment : Environment) (tree : FileTree) :
    Settings.Stated → Prop
  /-- There is no file. -/
  | without (absent : line.config = none) : FileStates line environment tree .nothing
  /-- The file holds a document whose entries are settings. -/
  | of {path document : String} {bytes : ByteArray} {entries : Toml.Entries} {settings : Settings}
    (given : line.config = some path) (read : tree.read path = .ok bytes)
    (text : String.fromUTF8? bytes = some document) (parsed : Toml.parse? document = some entries)
    (decoded : Settings.decode environment entries = .ok settings) :
    FileStates line environment tree (.ofEntries entries)

/-- Every setting from the first place that says something about it. -/
def layered (line : CommandLine) (environment : Environment) (stated : Settings.Stated) :
    Settings where
  startRule := (line.startRule <|> stated.startRule).getD ""
  grammar := (line.grammar <|> stated.grammar).getD ""
  scope := (line.scope <|> stated.scope).getD ""
  encoding :=
    (line.encoding <|> (environment.get? "INFALLIBLE_ENCODING").filter (!Text.isAllBlank ·) <|>
      stated.encoding).getD "utf-8"
  skip := line.skip || (environment.flag? "INFALLIBLE_SKIP" <|> stated.skip).getD false
  fileSets := stated.fileSets.getD [] ++ line.fileSet?.toList
  logging :=
    ⟨(line.logLevel <|> stated.level <|> environment.get? "INFALLIBLE_LOG_LEVEL").getD "info",
      line.structuredLogs ||
        (stated.structured <|> environment.flag? "INFALLIBLE_LOG_STRUCTURED").getD false⟩

/-- The settings below those of the command line are what the file says over the environment's
defaults, with what the environment overrides. -/
theorem base_eq_ok (states : line.FileStates environment tree stated) :
    line.base environment tree =
      .ok (((Settings.ofEnvironment environment).withStated stated).override environment) := by
  cases states with
  | without absent =>
    rw [base, absent]
    rfl
  | of given read text parsed decoded =>
    rw [base, given]
    simp only [Settings.read, read, text, Settings.ofDocument, parsed, decoded]
    rw [Settings.eq_of_decode (Toml.keyed_of_parse? parsed) decoded]
    rfl

/-- The settings of a command line over those below are the layered ones. -/
theorem overlay_base (line : CommandLine) (environment : Environment) (stated : Settings.Stated) :
    line.overlay (((Settings.ofEnvironment environment).withStated stated).override environment) =
      line.layered environment stated := by
  simp only [overlay, layered, Settings.override, Settings.withStated, Settings.ofEnvironment,
    Log.Preferences.ofEnvironment, Option.orElse_eq_orElse, Option.orElse_eq_or, Option.getD_or]

/-- The settings of a command line are its layered ones, once these have been checked. -/
theorem settings_eq (checked : line.check = .ok ())
    (states : line.FileStates environment tree stated) :
    line.settings environment tree =
      ((line.layered environment stated).validate.map fun _ =>
        line.layered environment stated).mapError CommandError.settings := by
  rw [CommandLine.settings, checked, base_eq_ok states, ← overlay_base]
  simp only [bind, Except.bind, Except.mapError, pure, Except.pure]
  cases (line.overlay _).validate <;> rfl

/-- A command line has settings exactly when its layered ones make sense, and it has these. -/
theorem settings_eq_ok_iff (checked : line.check = .ok ())
    (states : line.FileStates environment tree stated) {settings : Settings} :
    line.settings environment tree = .ok settings ↔
      settings = line.layered environment stated ∧ settings.Sensible := by
  rw [settings_eq checked states]
  constructor
  · intro returned
    have valid := Log.eq_ok_of_mapError returned
    cases checkedAgain : (line.layered environment stated).validate with
    | error error =>
      rw [checkedAgain] at valid
      cases valid
    | ok passed =>
      rw [checkedAgain] at valid
      obtain rfl := Except.ok.inj valid
      exact ⟨rfl, Settings.validate_eq_ok_iff.1 checkedAgain⟩
  · rintro ⟨rfl, sensible⟩
    rw [Settings.validate_eq_ok_iff.2 sensible]
    rfl

/-- For a command line that passes its own check and whose settings file, if there is one, can be
read and understood, the settings over those below them are the layered ones, and the command line
is given these exactly when they make sense. -/
theorem settings_layered (checked : line.check = .ok ())
    (states : line.FileStates environment tree stated) :
    (line.base environment tree).map line.overlay = .ok (line.layered environment stated) ∧
      ∀ settings, line.settings environment tree = .ok settings ↔
        settings = line.layered environment stated ∧ settings.Sensible := by
  refine ⟨?_, fun settings => settings_eq_ok_iff checked states⟩
  rw [base_eq_ok states, ← overlay_base]
  rfl

/-- A document that leaves the level of the log open. -/
def openLevel : String :=
  "start_rule = 'expr'\ngrammar_name = 'Snafu'\nencoding = 'ascii'\nskip = true\n" ++
    "[[fileset]]\ndirectory = 'd'\n[logging]\nstructured = false\n"

/-- The entries of that document. -/
def openLevelEntries : Toml.Entries := [
  ("start_rule", .text "expr"), ("grammar_name", .text "Snafu"), ("encoding", .text "ascii"),
  ("skip", .flag true), ("fileset", .tables [[("directory", .text "d")]]),
  ("logging", .table .defined [("structured", .flag false)])]

/-- A command line with that document for its file, and a start rule and a directory of its own. -/
def overOpenLevel : CommandLine :=
  { CommandLine.empty with
    config := some "c"
    startRule := some "statement"
    directory := some "e"
    includes := ["*.snafu"] }

/-- The command line is given the start rule of its own, the encoding of the file because that of
the environment is blank, the flag and the level of the environment, and both file sets. -/
theorem settings_layered_openLevel :
    overOpenLevel.check = .ok () ∧
      overOpenLevel.settings
        ⟨[("INFALLIBLE_ENCODING", " "), ("INFALLIBLE_SKIP", "false"),
          ("INFALLIBLE_LOG_LEVEL", "warn"), ("INFALLIBLE_LOG_STRUCTURED", "true")]⟩
        ⟨.directory [("c", .file (.bytes openLevel.toUTF8))], []⟩ =
          .ok ⟨"statement", "Snafu", "", "ascii", false,
            [⟨"d", ["**/*"], []⟩, ⟨"e", ["*.snafu"], []⟩], ⟨"warn", false⟩⟩ := by
  have read : FileTree.read ⟨.directory [("c", .file (.bytes openLevel.toUTF8))], []⟩ "c" =
      .ok (Content.bytes openLevel.toUTF8).data :=
    FileTree.read_name rfl (by decide) (by decide) (by decide) (by decide)
  have text : String.fromUTF8? openLevel.toUTF8 = some openLevel := by decide +kernel
  have parsed : Toml.parse? openLevel = some openLevelEntries := by cbv
  refine ⟨rfl, ((settings_layered rfl (.of rfl read text parsed rfl)).2 _).2 ⟨?_, ?_⟩⟩
  · decide +kernel
  · exact ⟨by decide, by decide, by decide, by decide⟩

end CommandLine

end Conformance
