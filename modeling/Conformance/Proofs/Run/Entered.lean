import Conformance.Proofs.Log.Course
import Conformance.Proofs.Run.Answer
import Conformance.Proofs.Symbol.Resolution

/-!
# What the steps of a run enter

The course of a run is put together from those of its steps. A step that returns enters just what
belongs to it: the implementations that were found, the text that was decoded, the parser that was
built, the verdict on the source. A step that fails enters one failure, which reports its error
under the symbol or the file that it is about.
-/

namespace Conformance

open Log Log.Attempt

/-! ## Routine events -/

namespace Log.Event

/-- An event tells of the course of the work: it is neither a finding nor a milestone of a run. -/
structure Routine (event : Event) : Prop where
  /-- It is neither a failure nor a warning. -/
  level : event.level = .info ∨ event.level = .debug
  /-- Its code says no more than that something happened on the way. -/
  code : event.code ∈ [Code.info, .debug, .symbolResolved, .pipelineBuilt]

/-- The current file does not matter for what an event is. -/
theorem Routine.marked {event : Event} (routine : event.Routine) (file : Option String)
    (context : List (String × String)) : (event.marked file context).Routine := by
  constructor
  · rw [level_marked]
    exact routine.level
  · rw [code_marked]
    exact routine.code

/-- A routine event is no failure. -/
theorem Routine.isError {event : Event} (routine : event.Routine) : event.isError = false := by
  rw [Event.isError]
  rcases routine.level with level | level
  · rw [level]
    rfl
  · rw [level]
    rfl

/-- A routine event is no warning. -/
theorem Routine.isWarning {event : Event} (routine : event.Routine) :
    event.isWarning = false := by
  rw [Event.isWarning]
  rcases routine.level with level | level
  · rw [level]
    rfl
  · rw [level]
    rfl

/-- A routine event has none of the codes that are not. -/
theorem Routine.code_beq {event : Event} {code : Code} (routine : event.Routine)
    (other : code ∉ [Code.info, .debug, .symbolResolved, .pipelineBuilt]) :
    (event.code == code) = false := by
  rw [beq_eq_false_iff_ne]
  intro same
  exact other (same ▸ routine.code)

/-- What is looked for is not found among routine events if it is never one. -/
theorem filter_routine {events : List Event} {wanted : Event → Bool}
    (overlooks : ∀ event : Event, event.Routine → wanted event = false)
    (routine : ∀ event ∈ events, event.Routine) : events.filter wanted = [] := by
  rw [List.filter_eq_nil_iff]
  intro event member
  rw [overlooks event (routine event member)]
  exact Bool.false_ne_true

/-! ## Reports of failures -/

/-- An event enters a failure with its code and its words and says what the failure is about. -/
structure Reports (event : Event) (code : Code) (message name value : String) : Prop where
  /-- It is a failure. -/
  level : event.level = .error
  /-- It has the code. -/
  code : event.code = code
  /-- It has the words. -/
  message : event.message = message
  /-- It says what the failure is about. -/
  about : event.context? name = some value

/-- Whatever file is current, a failure is reported under what its own context says. -/
theorem reports_marked (file : Option String) (code : Code) (message : String)
    {context : List (String × String)} {name value : String}
    (said : ((error code message).withContexts context).context? name = some value) :
    ((error code message).marked file context).Reports code message name value :=
  ⟨level_marked, code_marked, message_marked, context?_marked said⟩

/-- An event that reports a failure is one. -/
theorem Reports.isError {event : Event} {code : Code} {message name value : String}
    (reports : event.Reports code message name value) : event.isError = true := by
  rw [Event.isError, reports.level]
  rfl

/-- On its own, an event that reports a failure is the only one. -/
theorem Reports.filter_alone {event : Event} {code : Code} {message name value : String}
    (reports : event.Reports code message name value) :
    [event].filter Event.isError = [event] := by
  rw [List.filter_cons_of_pos reports.isError, List.filter_nil]

/-- After routine events, an event that reports a failure is the only one. -/
theorem Reports.filter_append {event : Event} {code : Code} {message name value : String}
    (reports : event.Reports code message name value) {events : List Event}
    (routine : ∀ other ∈ events, other.Routine) :
    (events ++ [event]).filter Event.isError = [event] := by
  have none := filter_routine (fun other => Routine.isError) routine
  rw [List.filter_append, none, List.nil_append, reports.filter_alone]

/-- An event says nothing under a name that neither itself nor its context has. -/
theorem context?_withContexts_eq_none {event : Event} {context : List (String × String)}
    {name : String} (own : event.context? name = none) (other : name ∉ context.map Prod.fst) :
    (event.withContexts context).context? name = none := by
  induction context generalizing event with
  | nil => exact own
  | cons entry context ih =>
    rw [List.map_cons, List.mem_cons, not_or] at other
    apply ih _ other.2
    show (event.withContext entry.1 entry.2).context? name = none
    rw [context?, withContext, Keyed.find?_put_of_ne (Ne.symm other.1)]
    exact own

/-- Texts that are named in order are entered as they are. -/
theorem withContexts_ascending (level : Level) (code : Code) (message : String)
    {before context : List (String × String)}
    (ordered : ((before ++ context).map Prod.fst).Pairwise (· < ·)) :
    (⟨level, code, message, before⟩ : Event).withContexts context =
      ⟨level, code, message, before ++ context⟩ := by
  induction context generalizing before with
  | nil =>
    rw [List.append_nil]
    rfl
  | cons entry context ih =>
    have last : ∀ other ∈ before, other.1 < entry.1 := by
      intro other member
      rw [List.map_append, List.pairwise_append] at ordered
      exact ordered.2.2 _ (List.mem_map_of_mem member) _ List.mem_cons_self
    rw [List.append_cons] at ordered ⊢
    rw [← ih ordered, ← Keyed.put_of_forall_lt last]
    rfl

/-- Under a current file, an event that says the rule says the file and the rule. -/
theorem marked_rule (level : Level) (code : Code) (message file rule : String) :
    (⟨level, code, message, []⟩ : Event).marked (some file) [("rule", rule)] =
      ⟨level, code, message, [("file", file), ("rule", rule)]⟩ := by
  have before : "file" < "rule" := by decide
  show withContext ⟨level, code, message, [("rule", rule)]⟩ "file" file = _
  rw [withContext, Keyed.put_of_lt before]

/-- Whatever file is current, an event that says a file and two more names says just these. -/
theorem marked_file (file : Option String) (level : Level) (code : Code)
    (message path first second : String) :
    (⟨level, code, message, []⟩ : Event).marked file
        [("file", path), ("lexer", first), ("parser", second)] =
      ⟨level, code, message, [("file", path), ("lexer", first), ("parser", second)]⟩ := by
  have ordered : ["file", "lexer", "parser"].Pairwise (· < ·) := by decide
  have own : (⟨level, code, message, []⟩ : Event).withContexts
      [("file", path), ("lexer", first), ("parser", second)] = _ :=
    withContexts_ascending level code message ordered
  rw [marked, Journal.complete, own]
  cases file with
  | none => rfl
  | some file => rfl

end Log.Event

/-! ## Verdicts -/

namespace SourceResult

/-- The event of a verdict on a source. -/
def event (rule : String) (result : SourceResult) : Event :=
  match result.message? with
  | none => ⟨.info, .sourceAccepted, "Source accepted", [("file", result.file), ("rule", rule)]⟩
  | some message => ⟨.error, .sourceRejected, message, [("file", result.file), ("rule", rule)]⟩

/-- The event of a verdict is a failure when the source was rejected. -/
@[simp] theorem isError_event (rule : String) (result : SourceResult) :
    (result.event rule).isError = result.hasFailed := by
  unfold event hasFailed message?
  cases result.rejection with
  | none => rfl
  | some cause => rfl

/-- A verdict names its source. -/
theorem file_event (rule : String) (result : SourceResult) :
    (result.event rule).context? "file" = some result.file := by
  unfold event
  cases result.message? with
  | none => rfl
  | some message => rfl

/-- The failures among verdicts are the rejections. -/
theorem filter_isError_map_event (rule : String) (results : List SourceResult) :
    (results.map (event rule)).filter Event.isError =
      (results.filter hasFailed).map (event rule) := by
  have same : Event.isError ∘ event rule = hasFailed := funext (isError_event rule)
  rw [List.filter_map, same]

/-- The code of a verdict says whether the source was rejected. -/
theorem code_event (rule : String) (result : SourceResult) :
    (result.event rule).code = if result.hasFailed then .sourceRejected else .sourceAccepted := by
  unfold event hasFailed message?
  cases result.rejection with
  | none => rfl
  | some cause => rfl

/-- There is no warning among verdicts. -/
theorem filter_isWarning_map_event (rule : String) (results : List SourceResult) :
    (results.map (event rule)).filter Event.isWarning = [] := by
  rw [List.filter_eq_nil_iff]
  intro entered member
  obtain ⟨result, -, rfl⟩ := List.mem_map.1 member
  unfold event
  cases result.message? with
  | none => exact Bool.false_ne_true
  | some message => exact Bool.false_ne_true

/-- There is no end of a run among verdicts. -/
theorem filter_completed_map_event (rule : String) (results : List SourceResult) :
    (results.map (event rule)).filter (·.code == .runCompleted) = [] := by
  rw [List.filter_eq_nil_iff]
  intro event member
  obtain ⟨result, -, rfl⟩ := List.mem_map.1 member
  rw [code_event]
  cases result.hasFailed with
  | false => decide
  | true => decide

/-- The acceptances among verdicts are those of the sources that were not rejected. -/
theorem filter_accepted_map_event (rule : String) (results : List SourceResult) :
    (results.map (event rule)).filter (·.code == .sourceAccepted) =
      (results.filter (!·.hasFailed)).map (event rule) := by
  have same : (·.code == Code.sourceAccepted) ∘ event rule = (!·.hasFailed) := by
    funext result
    rw [Function.comp_apply, code_event]
    cases result.hasFailed with
    | false => rfl
    | true => rfl
  rw [List.filter_map, same]

end SourceResult

namespace Parser

variable (parser : Parser) (rule : String)

/-- A verdict is on the source of the parser. -/
theorem file_of_verdict {parser : Parser} {rule : String} {result : SourceResult}
    (judged : parser.verdict rule = .ok result) : result.file = parser.sourceName := by
  obtain ⟨-, ended⟩ := verdict_eq_ok_iff.1 judged
  rcases ended with ⟨-, rfl⟩ | ⟨cause, -, rfl⟩
  · rfl
  · rfl

/-- Calling the start rule while the source is the current file enters one event: the verdict on
the source, or a report why there is none. -/
theorem course_call :
    ∃ event, (parser.call rule).Course (some parser.sourceName) [event] (some parser.sourceName)
        (parser.verdict rule) ∧
      (∀ result, parser.verdict rule = .ok result → event = result.event rule) ∧
      ∀ error, parser.verdict rule = .error error →
        event.Reports error.code error.message "file" parser.sourceName := by
  unfold call verdict
  cases RuleEntry.admit parser.table rule with
  | error error =>
    refine ⟨_, (Course.throw _ error).emit _ _, nofun, fun _ failed => ?_⟩
    cases failed
    rw [Event.error, Event.marked_rule]
    exact ⟨rfl, rfl, rfl, rfl⟩
  | ok admitted =>
    cases (parser.invoke rule).1 with
    | ok accepted =>
      refine ⟨_, (Course.pure _ _).emit _ _, fun _ judged => ?_, nofun⟩
      cases judged
      exact Event.marked_rule _ _ _ _ _
    | error failure =>
      cases failure with
      | cancelled cause =>
        refine ⟨_, (Course.pure _ _).emit _ _, fun _ judged => ?_, nofun⟩
        cases judged
        exact Event.marked_rule _ _ _ _ _
      | internal message =>
        refine ⟨_, (Course.throw _ _).emit _ _, nofun, fun _ failed => ?_⟩
        cases failed
        exact ⟨rfl, rfl, rfl, rfl⟩
      | crashed crash =>
        refine ⟨_, (Course.throw _ _).emit _ _, nofun, fun _ failed => ?_⟩
        cases failed
        exact ⟨rfl, rfl, rfl, rfl⟩

/-- Testing a source enters its verdict, or reports under the name of the source why there is none.
After it no file is current. -/
theorem accounts_test (file : Option String) :
    (parser.test rule).Accounts file none (parser.verdict rule)
      (fun result events => result.file = parser.sourceName ∧ events = [result.event rule])
      fun error own => own.Reports error.code error.message "file" parser.sourceName := by
  obtain ⟨event, called, verdict, report⟩ := parser.course_call rule
  refine ⟨[event], none, called.withFile file, fun result same => ?_, fun error same => ?_⟩
  · rw [verdict result same]
    exact ⟨rfl, file_of_verdict same, rfl⟩
  · have reports := report error same
    exact ⟨.inr rfl, event, reports.filter_alone, reports⟩

/-- After a call of the start rule, whatever comes of it, no file is current, and the one event of
the call names the source. -/
theorem event_test (before : Journal) : ∃ event,
    ((parser.test rule).run.run before).2 = ⟨before.events.push event, none⟩ ∧
      event.context? "file" = some parser.sourceName := by
  obtain ⟨event, called, verdict, report⟩ := parser.course_call rule
  have ran := called.withFile before.file before.events
  rw [← Array.push_eq_append] at ran
  refine ⟨event, congrArg Prod.snd ran, ?_⟩
  cases judged : parser.verdict rule with
  | error error => exact (report error judged).about
  | ok result =>
    rw [verdict result judged, ← file_of_verdict judged]
    exact result.file_event rule

end Parser

/-! ## Parsers on sources -/

/-- The event of a source that was decoded. -/
def SourceFile.decodedEvent (source : SourceFile) (encoding : Encoding) (bytes : ByteArray) :
    Event :=
  ⟨.debug, .debug, "Source decoded",
    [("bytes", toString bytes.size), ("encoding", encoding.name), ("file", source.path)]⟩

/-- That a source was decoded is routine. -/
theorem SourceFile.routine_decodedEvent (source : SourceFile) (encoding : Encoding)
    (bytes : ByteArray) : (source.decodedEvent encoding bytes).Routine :=
  ⟨.inr rfl, List.mem_cons_of_mem _ List.mem_cons_self⟩

/-- Whatever file is current, the event of a decoded source says the file of that source. -/
theorem SourceFile.marked_decoded (source : SourceFile) (encoding : Encoding) (bytes : ByteArray)
    (file : Option String) :
    (Event.debug "Source decoded").marked file
        [("file", source.path), ("encoding", encoding.name), ("bytes", toString bytes.size)] =
      source.decodedEvent encoding bytes := by
  have second : "encoding" < "file" := by decide
  have third : "bytes" < "encoding" := by decide
  have own : (Event.debug "Source decoded").withContexts
      [("file", source.path), ("encoding", encoding.name), ("bytes", toString bytes.size)] =
        source.decodedEvent encoding bytes := by
    show (Event.withContext ⟨.debug, .debug, _, [("file", _)]⟩ "encoding" _).withContext "bytes" _ =
      _
    rw [Event.withContext, Event.withContext, Keyed.put_of_lt second, Keyed.put_of_lt third]
    rfl
  rw [Event.marked, Journal.complete, own]
  cases file with
  | none => rfl
  | some file => rfl

/-- Reading a source enters that it was decoded, if it was. -/
theorem SourceFile.course_read (source : SourceFile) (tree : FileTree) (file : Option String) :
    ∃ events, (source.read tree).Course file events file
        ((source.decode tree).map fun decoded => CharStream.ofText source.path decoded.2.2) ∧
      (∀ event ∈ events, event.Routine) ∧
      ∀ encoding bytes text, source.decode tree = .ok (encoding, bytes, text) →
        events = [source.decodedEvent encoding bytes] := by
  unfold read
  cases source.decode tree with
  | error error => exact ⟨[], (Course.attempt file _).bind_error, nofun, nofun⟩
  | ok decoded =>
    obtain ⟨encoding, bytes, text⟩ := decoded
    have entered := (Course.pure (ε := SourceError) file (CharStream.ofText source.path text)).emit
      (.debug "Source decoded")
      [("file", source.path), ("encoding", encoding.name), ("bytes", toString bytes.size)]
    rw [source.marked_decoded encoding bytes file] at entered
    refine ⟨_, (Course.attempt file _).bind entered, ?_, ?_⟩
    · intro event member
      rw [List.mem_singleton.1 member]
      exact source.routine_decodedEvent encoding bytes
    · intro _ _ _ same
      cases same
      rfl

namespace Assembly

variable (assembly : Assembly)

/-- The event of a parser that was built on the source of a name. -/
def builtEvent (name : String) : Event :=
  ⟨.info, .pipelineBuilt, "Pipeline built",
    [("file", name), ("lexer", assembly.lexerName), ("parser", assembly.parserName)]⟩

/-- That a parser was built is routine. -/
theorem routine_builtEvent (name : String) : (assembly.builtEvent name).Routine :=
  ⟨.inl rfl, .tail _ (.tail _ (.tail _ List.mem_cons_self))⟩

/-- Preparing a parser enters what reading the source does. -/
theorem course_prepare (tree : FileTree) (source : SourceFile) (file : Option String) :
    ∃ events, (assembly.prepare tree source).Course file events file
        (assembly.parserOf tree source) ∧
      (∀ event ∈ events, event.Routine) ∧
      ∀ parser, assembly.parserOf tree source = .ok parser → ∃ encoding bytes text,
        source.decode tree = .ok (encoding, bytes, text) ∧
          events = [source.decodedEvent encoding bytes] := by
  obtain ⟨events, read, routine, decoded⟩ := source.course_read tree file
  unfold prepare parserOf
  cases found : source.decode tree with
  | error error =>
    rw [found] at read
    exact ⟨events, (read.adapt _).bind_error, routine, nofun⟩
  | ok triple =>
    obtain ⟨encoding, bytes, text⟩ := triple
    rw [found] at read
    refine ⟨events, ?_, routine, fun _ _ =>
      ⟨encoding, bytes, text, rfl, decoded encoding bytes text found⟩⟩
    rw [← List.append_nil events]
    exact (read.adapt _).bind (Course.attempt file _)

/-- Building a parser enters that the source was decoded and the parser built, or reports under the
path of the source what went wrong. -/
theorem accounts_build (tree : FileTree) (source : SourceFile) (file : Option String) :
    (assembly.build tree source).Accounts file file (assembly.parserOf tree source)
      (fun parser events => ∃ encoding bytes text,
        source.decode tree = .ok (encoding, bytes, text) ∧
          events = [source.decodedEvent encoding bytes, assembly.builtEvent parser.sourceName])
      fun error own => own.Reports error.code error.message "file" source.path := by
  obtain ⟨events, prepared, routine, decoded⟩ := assembly.course_prepare tree source file
  cases built : assembly.parserOf tree source with
  | ok parser =>
    rw [built] at prepared
    obtain ⟨encoding, bytes, text, found, rfl⟩ := decoded parser built
    have entered := (Course.pure (ε := AssemblyError) file parser).emit
      (.success .pipelineBuilt "Pipeline built")
      [("file", parser.sourceName), ("lexer", assembly.lexerName),
        ("parser", assembly.parserName)]
    rw [Event.success, Event.marked_file] at entered
    exact .of_ok (prepared.follow entered) ⟨encoding, bytes, text, found, rfl⟩
  | error error =>
    rw [built] at prepared
    have entered := (Course.throw (α := Parser) file error).emit
      (.error error.code error.message) [("file", source.path)]
    have said : ((Event.error error.code error.message).withContexts
        [("file", source.path)]).context? "file" = some source.path := rfl
    have reports := Event.reports_marked file error.code error.message said
    exact .of_error (prepared.follow entered) (reports.filter_append routine) reports

end Assembly

/-! ## Implementations -/

namespace Registry

variable (registry : Registry) (file : Option String)

/-- An implementation that is found has the role for which it was looked. -/
theorem role_of_implementation {registry : Registry} {name grammar : String} {role : Role}
    {found : Implementation} (resolved : registry.implementation name grammar role = .ok found) :
    found.role = role := by
  cases implementation_eq_iff.1 resolved with
  | found known same built named plays => exact plays

/-- The event that an implementation is looked for under a name. -/
def soughtEvent (name : String) (role : Role) : Event :=
  (Event.info ("Using " ++ role.capability.name ++ " class '" ++ name ++ "'")).marked file []

/-- That an implementation is looked for is routine. -/
theorem routine_soughtEvent (name : String) (role : Role) :
    (soughtEvent file name role).Routine := by
  apply Event.Routine.marked
  exact ⟨.inl rfl, List.mem_cons_self⟩

/-- The events of an implementation that is looked for under a name and found. -/
def foundEvents (name : String) (role : Role) : List Event := [
  soughtEvent file name role,
  (Event.success .symbolResolved "Symbol resolved").marked file
    [("symbol", name), ("role", role.suffix)]]

/-- The events of an implementation that is found are routine. -/
theorem routine_of_mem_foundEvents {name : String} {role : Role} {event : Event}
    (member : event ∈ foundEvents file name role) : event.Routine := by
  rw [foundEvents, List.mem_cons, List.mem_singleton] at member
  rcases member with rfl | rfl
  · exact routine_soughtEvent file name role
  · apply Event.Routine.marked
    exact ⟨.inl rfl, .tail _ (.tail _ List.mem_cons_self)⟩

/-- Looking for an implementation enters the events of one that is found, or reports under the name
of the symbol why there is none. -/
theorem accounts_resolve (scope grammar : String) (role : Role) :
    (registry.resolve scope grammar role).Accounts file file
      (registry.implementation (qualifiedName scope grammar role.suffix) grammar role)
      (fun _ events => events = foundEvents file (qualifiedName scope grammar role.suffix) role)
      fun error own => own.Reports error.code error.message "symbol" error.symbol := by
  unfold resolve
  dsimp only
  generalize qualifiedName scope grammar role.suffix = name
  cases registry.implementation name grammar role with
  | ok found => exact .of_ok (((Course.pure file found).emit _ _).emit _ _) rfl
  | error error =>
    have said : ((Event.error error.code error.message).withContexts
        [("symbol", error.symbol)]).context? "symbol" = some error.symbol := rfl
    have reports := Event.reports_marked file error.code error.message said
    have routine : ∀ other ∈ [soughtEvent file name role], other.Routine := by
      intro other member
      rw [List.mem_singleton.1 member]
      exact routine_soughtEvent file name role
    exact .of_error (((Course.throw file error).emit _ _).emit _ _)
      (reports.filter_append routine) reports

/-- Taking an implementation for what its role makes it enters nothing more. -/
theorem accounts_resolve_bind {α : Type} {pick : Implementation → Attempt ResolutionError α}
    {picked : Implementation → Except ResolutionError α} (scope grammar : String) {role : Role}
    (fits : ∀ found : Implementation, found.role = role →
      ∃ value, pick found = pure value ∧ picked found = .ok value) :
    (registry.resolve scope grammar role >>= pick).Accounts file file
      (registry.implementation (qualifiedName scope grammar role.suffix) grammar role >>= picked)
      (fun _ events => events = foundEvents file (qualifiedName scope grammar role.suffix) role)
      fun error own => own.Reports error.code error.message "symbol" error.symbol := by
  obtain ⟨events, after, course, returned, failed⟩ :=
    registry.accounts_resolve file scope grammar role
  cases found : registry.implementation (qualifiedName scope grammar role.suffix) grammar role with
  | error error =>
    rw [found] at course
    obtain ⟨leaves, own, single, reports⟩ := failed error found
    refine ⟨events, after, course.bind_error, nofun, fun _ same => ?_⟩
    cases same
    exact ⟨leaves, own, single, reports⟩
  | ok implementation =>
    obtain ⟨value, given, taken⟩ := fits implementation (role_of_implementation found)
    obtain ⟨rfl, listed⟩ := returned implementation found
    rw [found] at course
    have goesOn : (pick implementation).Course after [] after (.ok value) := by
      rw [given]
      exact Course.pure after value
    have whole := course.bind goesOn
    rw [List.append_nil] at whole
    have combined : (Except.ok implementation >>= picked) = .ok value := taken
    rw [combined]
    exact .of_ok whole listed

/-- Looking for the lexer of a grammar enters what looking for an implementation does. -/
theorem accounts_resolveLexer (identity : GrammarIdentity) :
    (registry.resolveLexer identity).Accounts file file (registry.lexer? identity)
      (fun _ events => events = foundEvents file
        (qualifiedName identity.scope identity.name Role.lexer.suffix) .lexer)
      fun error own => own.Reports error.code error.message "symbol" error.symbol := by
  refine registry.accounts_resolve_bind file identity.scope identity.name fun found role => ?_
  cases found with
  | lexer name construct => exact ⟨_, rfl, rfl⟩
  | parser name construct => cases role

/-- Looking for the parser of a grammar enters what looking for an implementation does. -/
theorem accounts_resolveParser (identity : GrammarIdentity) :
    (registry.resolveParser identity).Accounts file file (registry.parser? identity)
      (fun _ events => events = foundEvents file
        (qualifiedName identity.scope identity.name Role.parser.suffix) .parser)
      fun error own => own.Reports error.code error.message "symbol" error.symbol := by
  refine registry.accounts_resolve_bind file identity.scope identity.name fun found role => ?_
  cases found with
  | lexer name construct => cases role
  | parser name construct => exact ⟨_, rfl, rfl⟩

end Registry

end Conformance
