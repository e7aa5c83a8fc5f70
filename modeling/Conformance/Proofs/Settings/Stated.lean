import Conformance.Proofs.Log.Outcome
import Conformance.Proofs.Toml.Keys
import Conformance.Settings.Document

/-!
# What a document says about the settings

A document is read entry by entry, each of which changes the settings at hand. As no key stands
twice, the order of the entries does not matter: a setting is what stands under its key, and where
nothing stands it is what it was.
-/

namespace Conformance

/-! ## Values -/

namespace Toml

/-- The keys that are zipped with values are some of the keys. -/
theorem Entries.keys_zip_sublist (keys : List String) (items : List Value) :
    ((keys.zip items).map Prod.fst).Sublist keys := by
  induction keys generalizing items with
  | nil => simp
  | cons key keys ih =>
    cases items with
    | nil => simp
    | cons item items => simpa using ih items

namespace Value

/-- The text that a value is. -/
def text? : Value → Option String
  | .text value => some value
  | _ => none

/-- The flag that a value is. -/
def flag? : Value → Option Bool
  | .flag value => some value
  | _ => none

/-- The texts of a list of texts. -/
def texts? : Value → Option (List String)
  | .list items => items.mapM text?
  | _ => none

/-- The entries of a table, or of a list that gives the values of some keys in order. -/
def fields (keys : List String) : Value → Entries
  | .table _ entries => entries
  | .braces _ entries => entries
  | .list items => keys.zip items
  | _ => []

/-- The entries of a keyed value are keyed. -/
theorem keyed_fields {value : Value} (keyed : value.Keyed) (keys : List String)
    (once : keys.Nodup) : (value.fields keys).Keyed := by
  cases keyed with
  | table once each => exact ⟨once, each⟩
  | braces once each => exact ⟨once, each⟩
  | @list items each =>
    exact ⟨once.sublist (Entries.keys_zip_sublist keys items),
      fun entry found => each _ (List.of_mem_zip found).2⟩
  | text | integer | decimal | moment | flag | tables => exact Entries.keyed_nil

end Value

/-- What entries say under a key. -/
def Entries.said {α : Type} (read : Value → Option α) (key : String) (entries : Entries) :
    Option α :=
  (entries.lookup key).bind read

/-- With one entry ahead of others, whose key they do not have, entries say what the others say,
and otherwise what that one says. -/
theorem Entries.said_cons {α : Type} (read : Value → Option α) (key : String)
    {entry : String × Value} {entries : Entries} (new : entry.1 ∉ entries.map Prod.fst) :
    said read key (entry :: entries) = (said read key entries).or (said read key [entry]) := by
  obtain ⟨field, value⟩ := entry
  by_cases same : key = field
  · subst same
    have absent : entries.lookup key = none := by
      refine List.lookup_eq_none_iff.2 fun other found => ?_
      exact bne_iff_ne.2 fun equal => new (List.mem_map.2 ⟨other, found, equal.symm⟩)
    simp [said, absent]
  · have other : (key == field) = false := beq_false_of_ne same
    simp [said, List.lookup_cons, other]

/-- A single entry says what its value is read as, under its key. -/
@[simp] theorem Entries.said_single {α : Type} (read : Value → Option α) (key field : String)
    (value : Value) :
    said read key [(field, value)] = if key = field then read value else none := by
  by_cases same : key = field
  · simp [said, same]
  · have other : (key == field) = false := beq_false_of_ne same
    simp [said, List.lookup_cons, other, same]

end Toml

/-! ## Entries one after the other -/

/-- Reading entries one after the other amounts to putting all that they say over the start, if
this is so for a single entry, and if what some say over what another one says is what they say
together. -/
theorem Settings.eq_of_foldlM {σ : Type} {step : σ → String → Toml.Value → Decoded σ}
    (put : Toml.Entries → σ → σ) (nothing : ∀ start, put [] start = start)
    (cons : ∀ entry entries start, entry.1 ∉ entries.map Prod.fst →
      put entries (put [entry] start) = put (entry :: entries) start)
    (one : ∀ start field value next, value.Keyed → step start field value = .ok next →
      next = put [(field, value)] start) {start result : σ}
    {entries : Toml.Entries} (keyed : entries.Keyed)
    (decoded : entries.foldlM (fun state entry => step state entry.1 entry.2) start = .ok result) :
    result = put entries start := by
  induction entries generalizing start with
  | nil =>
    cases decoded
    exact (nothing _).symm
  | cons entry entries ih =>
    obtain ⟨new, once⟩ := List.nodup_cons.1 keyed.once
    obtain ⟨first, rest⟩ := List.forall_mem_cons.1 keyed.each
    obtain ⟨next, here, decoded⟩ := Log.exists_of_bind_eq_ok decoded
    obtain rfl := one start entry.1 entry.2 next first here
    rw [ih ⟨once, rest⟩ decoded, cons entry entries start new]

/-- Where each item that is decoded is also read, a list that is decoded is read. -/
theorem Settings.mapM_eq_some {α β : Type} {decode : α → Decoded β} {read : α → Option β}
    {items : List α} {values : List β}
    (agree : ∀ item ∈ items, ∀ value, decode item = .ok value → read item = some value)
    (decoded : items.mapM decode = .ok values) : items.mapM read = some values := by
  induction items generalizing values with
  | nil =>
    cases decoded
    rfl
  | cons item items ih =>
    rw [List.mapM_cons] at decoded
    obtain ⟨value, first, decoded⟩ := Log.exists_of_bind_eq_ok decoded
    obtain ⟨others, rest, decoded⟩ := Log.exists_of_bind_eq_ok decoded
    cases decoded
    obtain ⟨here, later⟩ := List.forall_mem_cons.1 agree
    rw [List.mapM_cons, here value first, ih later rest]
    rfl

namespace Settings

/-- A text that is decoded is the value's. -/
theorem text?_of_decodeText {field text : String} {value : Toml.Value}
    (decoded : decodeText field value = .ok text) : value.text? = some text := by
  cases value with
  | text written => exact congrArg some (Except.ok.inj decoded)
  | integer | decimal | moment | flag | list | braces | table | tables => cases decoded

/-- A flag that is decoded is the value's. -/
theorem flag?_of_decodeFlag {field : String} {flag : Bool} {value : Toml.Value}
    (decoded : decodeFlag field value = .ok flag) : value.flag? = some flag := by
  cases value with
  | flag written => exact congrArg some (Except.ok.inj decoded)
  | text | integer | decimal | moment | list | braces | table | tables => cases decoded

/-- Texts that are decoded are the value's. -/
theorem texts?_of_decodeTexts {field : String} {texts : List String} {value : Toml.Value}
    (decoded : decodeTexts field value = .ok texts) : value.texts? = some texts := by
  cases value with
  | list items => exact mapM_eq_some (fun item _ text => text?_of_decodeText) decoded
  | text | integer | decimal | moment | flag | braces | table | tables => cases decoded

end Settings

/-! ## File sets -/

namespace FileSet

/-- A file set with what entries say over it. -/
def withEntries (entries : Toml.Entries) (set : FileSet) : FileSet where
  directory := (entries.said Toml.Value.text? "directory").getD set.directory
  includes := (entries.said Toml.Value.texts? "includes").getD set.includes
  excludes := (entries.said Toml.Value.texts? "excludes").getD set.excludes

/-- The file set of the entries of a table: a directory, with everything in it unless there are
patterns. -/
def ofEntries (entries : Toml.Entries) : FileSet :=
  (ofDirectory "").withEntries entries

/-- The file set that a value describes. -/
def ofValue (value : Toml.Value) : FileSet :=
  ofEntries (value.fields ["directory", "includes", "excludes"])

/-- The file sets that a value describes. -/
def listOfValue? : Toml.Value → Option (List FileSet)
  | .list items => some (items.map ofValue)
  | .tables items => some (items.map ofEntries)
  | _ => none

/-- A setting of a file set puts what it says over the set. -/
theorem eq_of_decodeFileSetField {set next : FileSet} {field : String} {value : Toml.Value}
    (decoded : Settings.decodeFileSetField set field value = .ok next) :
    next = set.withEntries [(field, value)] := by
  unfold Settings.decodeFileSetField at decoded
  split at decoded
  · obtain ⟨text, read, rfl⟩ := Log.exists_of_put_eq_ok decoded
    simp [withEntries, Settings.text?_of_decodeText read]
  · obtain ⟨texts, read, rfl⟩ := Log.exists_of_put_eq_ok decoded
    simp [withEntries, Settings.texts?_of_decodeTexts read]
  · obtain ⟨texts, read, rfl⟩ := Log.exists_of_put_eq_ok decoded
    simp [withEntries, Settings.texts?_of_decodeTexts read]
  · cases decoded

/-- What entries say over what one more entry says is what they say together. -/
theorem withEntries_cons (entry : String × Toml.Value) (entries : Toml.Entries) (set : FileSet)
    (new : entry.1 ∉ entries.map Prod.fst) :
    (set.withEntries [entry]).withEntries entries = set.withEntries (entry :: entries) := by
  simp only [withEntries, Toml.Entries.said_cons _ _ new, Option.getD_or]

/-- A file set that is decoded from entries is theirs. -/
theorem eq_of_decodeFileSetEntries {entries : Toml.Entries} {set : FileSet}
    (keyed : entries.Keyed) (decoded : Settings.decodeFileSetEntries entries = .ok set) :
    set = ofEntries entries := by
  obtain ⟨made, folded, decoded⟩ := Log.exists_of_bind_eq_ok decoded
  have same : made = set := by
    split at decoded
    · cases decoded
    · exact Except.ok.inj decoded
  subst same
  exact Settings.eq_of_foldlM withEntries (fun _ => rfl) withEntries_cons
    (fun _ _ _ _ _ => eq_of_decodeFileSetField) keyed folded

/-- A file set that is decoded from a value is the one that the value describes. -/
theorem eq_of_decodeFileSet {value : Toml.Value} {set : FileSet} (keyed : value.Keyed)
    (decoded : Settings.decodeFileSet value = .ok set) : set = ofValue value := by
  have fields := Toml.Value.keyed_fields keyed ["directory", "includes", "excludes"] (by decide)
  cases value with
  | table | braces | list => exact eq_of_decodeFileSetEntries fields decoded
  | text | integer | decimal | moment | flag | tables => cases decoded

/-- File sets that are decoded are those that the value describes. -/
theorem listOfValue?_of_decodeFileSets {value : Toml.Value} {sets : List FileSet}
    (keyed : value.Keyed) (decoded : Settings.decodeFileSets value = .ok sets) :
    listOfValue? value = some sets := by
  cases keyed with
  | @list items each =>
    have all : items.mapM (fun item => some (ofValue item)) = some sets :=
      Settings.mapM_eq_some (fun item found set one =>
        congrArg some (eq_of_decodeFileSet (each item found) one).symm) decoded
    exact List.mapM_pure.symm.trans all
  | @tables items once each =>
    have all : items.mapM (fun item => some (ofEntries item)) = some sets :=
      Settings.mapM_eq_some (fun item found set one => congrArg some
        (eq_of_decodeFileSetEntries ⟨once item found, each item found⟩ one).symm) decoded
    exact List.mapM_pure.symm.trans all
  | text | integer | decimal | moment | flag | braces | table => cases decoded

end FileSet

/-! ## The log -/

namespace Log.Preferences

/-- The preferences with what entries say over them. -/
def withEntries (entries : Toml.Entries) (logging : Preferences) : Preferences where
  level := (entries.said Toml.Value.text? "level").getD logging.level
  structured := (entries.said Toml.Value.flag? "structured").getD logging.structured

/-- A setting of the log puts what it says over the preferences. -/
theorem eq_of_decodeLoggingField {logging next : Preferences} {field : String} {value : Toml.Value}
    (decoded : Settings.decodeLoggingField logging field value = .ok next) :
    next = logging.withEntries [(field, value)] := by
  unfold Settings.decodeLoggingField at decoded
  split at decoded
  · obtain ⟨text, read, rfl⟩ := Log.exists_of_put_eq_ok decoded
    simp [withEntries, Settings.text?_of_decodeText read]
  · obtain ⟨flag, read, rfl⟩ := Log.exists_of_put_eq_ok decoded
    simp [withEntries, Settings.flag?_of_decodeFlag read]
  · next notLevel notStructured =>
    cases decoded
    simp [withEntries, Ne.symm notLevel, Ne.symm notStructured]

/-- What entries say over what one more entry says is what they say together. -/
theorem withEntries_cons (entry : String × Toml.Value) (entries : Toml.Entries)
    (logging : Preferences) (new : entry.1 ∉ entries.map Prod.fst) :
    (logging.withEntries [entry]).withEntries entries = logging.withEntries (entry :: entries) := by
  simp only [withEntries, Toml.Entries.said_cons _ _ new, Option.getD_or]

/-- The preferences that are decoded are what the value says over those before. -/
theorem eq_of_decodeLogging {logging result : Preferences} {value : Toml.Value}
    (keyed : value.Keyed) (decoded : Settings.decodeLogging logging value = .ok result) :
    result = logging.withEntries (value.fields ["level", "structured"]) := by
  have fields := Toml.Value.keyed_fields keyed ["level", "structured"] (by decide)
  cases value with
  | table | braces | list =>
    exact Settings.eq_of_foldlM withEntries (fun _ => rfl) withEntries_cons
      (fun _ _ _ _ _ => eq_of_decodeLoggingField) fields decoded
  | moment => exact (Except.ok.inj decoded).symm
  | text | integer | decimal | flag | tables => cases decoded

end Log.Preferences

/-! ## All settings -/

namespace Settings

/-- What a document says about the settings, each as far as it says anything. -/
structure Stated where
  /-- The start rule. -/
  startRule : Option String
  /-- The name of the grammar. -/
  grammar : Option String
  /-- The namespace of the grammar. -/
  scope : Option String
  /-- The label of the encoding. -/
  encoding : Option String
  /-- Whether nothing is tested. -/
  skip : Option Bool
  /-- The sources. -/
  fileSets : Option (List FileSet)
  /-- The least level that the log shows. -/
  level : Option String
  /-- Whether the log is written as JSON records. -/
  structured : Option Bool

namespace Stated

/-- Nothing is said. -/
def nothing : Stated := ⟨none, none, none, none, none, none, none, none⟩

/-- What a setting of the log says in the entries of a document. -/
def saidOfLog {α : Type} (entries : Toml.Entries) (read : Toml.Value → Option α) (key : String) :
    Option α :=
  entries.said (fun value => (value.fields ["level", "structured"]).said read key) "logging"

/-- What the entries of a document say. -/
def ofEntries (entries : Toml.Entries) : Stated where
  startRule := entries.said Toml.Value.text? "start_rule"
  grammar := entries.said Toml.Value.text? "grammar_name"
  scope := entries.said Toml.Value.text? "namespace"
  encoding := entries.said Toml.Value.text? "encoding"
  skip := entries.said Toml.Value.flag? "skip"
  fileSets := entries.said FileSet.listOfValue? "fileset"
  level := saidOfLog entries Toml.Value.text? "level"
  structured := saidOfLog entries Toml.Value.flag? "structured"

end Stated

/-- The settings with what is said over them. -/
def withStated (stated : Stated) (settings : Settings) : Settings where
  startRule := stated.startRule.getD settings.startRule
  grammar := stated.grammar.getD settings.grammar
  scope := stated.scope.getD settings.scope
  encoding := stated.encoding.getD settings.encoding
  skip := stated.skip.getD settings.skip
  fileSets := stated.fileSets.getD settings.fileSets
  logging :=
    ⟨stated.level.getD settings.logging.level, stated.structured.getD settings.logging.structured⟩

/-- What entries say over what one more entry says is what they say together. -/
theorem withStated_cons (entry : String × Toml.Value) (entries : Toml.Entries)
    (settings : Settings) (new : entry.1 ∉ entries.map Prod.fst) :
    (settings.withStated (.ofEntries [entry])).withStated (.ofEntries entries) =
      settings.withStated (.ofEntries (entry :: entries)) := by
  simp only [withStated, Stated.ofEntries, Stated.saidOfLog, Toml.Entries.said_cons _ _ new,
    Option.getD_or]

/-- A setting puts what it says over the settings. -/
theorem eq_of_decodeField {settings next : Settings} {field : String} {value : Toml.Value}
    (keyed : value.Keyed) (decoded : decodeField settings field value = .ok next) :
    next = settings.withStated (.ofEntries [(field, value)]) := by
  unfold decodeField at decoded
  split at decoded
  · obtain ⟨text, read, rfl⟩ := Log.exists_of_put_eq_ok decoded
    simp [withStated, Stated.ofEntries, Stated.saidOfLog, text?_of_decodeText read]
  · obtain ⟨text, read, rfl⟩ := Log.exists_of_put_eq_ok decoded
    simp [withStated, Stated.ofEntries, Stated.saidOfLog, text?_of_decodeText read]
  · obtain ⟨text, read, rfl⟩ := Log.exists_of_put_eq_ok decoded
    simp [withStated, Stated.ofEntries, Stated.saidOfLog, text?_of_decodeText read]
  · obtain ⟨text, read, rfl⟩ := Log.exists_of_put_eq_ok decoded
    simp [withStated, Stated.ofEntries, Stated.saidOfLog, text?_of_decodeText read]
  · obtain ⟨flag, read, rfl⟩ := Log.exists_of_put_eq_ok decoded
    simp [withStated, Stated.ofEntries, Stated.saidOfLog, flag?_of_decodeFlag read]
  · obtain ⟨sets, read, rfl⟩ := Log.exists_of_put_eq_ok decoded
    simp [withStated, Stated.ofEntries, Stated.saidOfLog,
      FileSet.listOfValue?_of_decodeFileSets keyed read]
  · obtain ⟨logging, read, rfl⟩ := Log.exists_of_put_eq_ok decoded
    simp [withStated, Stated.ofEntries, Stated.saidOfLog, Log.Preferences.withEntries,
      Log.Preferences.eq_of_decodeLogging keyed read]
  · cases decoded

/-- The settings that are decoded from the entries of a document are what they say over those of
the environment. -/
theorem eq_of_decode {environment : Environment} {entries : Toml.Entries} {settings : Settings}
    (keyed : entries.Keyed) (decoded : decode environment entries = .ok settings) :
    settings = (ofEnvironment environment).withStated (.ofEntries entries) :=
  eq_of_foldlM (fun entries settings => withStated (.ofEntries entries) settings)
    (fun _ => rfl) withStated_cons (fun _ _ _ _ => eq_of_decodeField) keyed decoded

end Settings

end Conformance
