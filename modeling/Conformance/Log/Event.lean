import Conformance.Log.Code
import Conformance.Text.Blank
import Conformance.Text.JsonValue
import Conformance.Text.Keyed
import Conformance.Time.Timestamp

/-!
# Events

An event has a level, a code, a message and a context: named texts in the order of their names.
It is shown as a line of text, as such a line with the classification of its code below, or as one
JSON record with its fields in the order of their names.
-/

namespace Conformance.Log

/-- How much an event matters. -/
inductive Level where
  /-- A failure. -/
  | error
  /-- Something doubtful. -/
  | warning
  /-- The course of the work. -/
  | info
  /-- Details. -/
  | debug
  deriving Repr, DecidableEq, Inhabited

namespace Level

/-- The name of a level. -/
def name : Level → String
  | .error => "ERROR"
  | .warning => "WARN"
  | .info => "INFO"
  | .debug => "DEBUG"

/-- The place of a level, the most important one first. -/
def rank : Level → Nat
  | .error => 0
  | .warning => 1
  | .info => 2
  | .debug => 3

/-- An event of this level passes where `least` is the least level of interest. -/
def passes (level least : Level) : Bool :=
  level.rank ≤ least.rank

/-- The level that a text names, in any case and with blanks around it. -/
def ofText? (text : String) : Option Level :=
  match (Text.trim text).toLower with
  | "error" => some .error
  | "warn" | "warning" => some .warning
  | "info" => some .info
  | "debug" => some .debug
  | _ => none

end Level

/-- Something that happened. -/
structure Event where
  /-- How much it matters. -/
  level : Level
  /-- Its code. -/
  code : Code
  /-- What happened. -/
  message : String
  /-- Named texts, in the order of their names. -/
  context : List (String × String)
  deriving Repr, DecidableEq, Inhabited

namespace Event

/-- A failure. -/
def error (code : Code) (message : String) : Event := ⟨.error, code, message, []⟩

/-- A warning. -/
def warning (message : String) : Event := ⟨.warning, .warning, message, []⟩

/-- An information. -/
def info (message : String) : Event := ⟨.info, .info, message, []⟩

/-- An achievement. -/
def success (code : Code) (message : String) : Event := ⟨.info, code, message, []⟩

/-- A detail. -/
def debug (message : String) : Event := ⟨.debug, .debug, message, []⟩

/-- The event with one more named text; a text of the same name is replaced. -/
def withContext (event : Event) (name value : String) : Event :=
  { event with context := Keyed.put Prod.fst (name, value) event.context }

/-- The event with more named texts, the later ones replacing the earlier ones. -/
def withContexts (event : Event) (context : List (String × String)) : Event :=
  context.foldl (fun event entry => event.withContext entry.1 entry.2) event

/-- The named text of an event. -/
def context? (event : Event) (name : String) : Option String :=
  (Keyed.find? Prod.fst name event.context).map Prod.snd

/-- The event is a failure. -/
def isError (event : Event) : Bool := event.level == .error

/-- The event is a warning. -/
def isWarning (event : Event) : Bool := event.level == .warning

/-- The event tells the course of the work. -/
def isInfo (event : Event) : Bool := event.level == .info

/-! ## Written forms -/

/-- One line of text. -/
def line (event : Event) : String :=
  let head := "[" ++ event.level.name ++ "] " ++ event.code.text ++ " - " ++ event.message
  if event.context.isEmpty then head
  else
    let entries := event.context.map fun (name, value) => name ++ "=" ++ value
    head ++ " (" ++ ", ".intercalate entries ++ ")"

/-- The line of an event and, below it, the classification of its code. -/
def details (event : Event) : String :=
  let head :=
    event.line ++ "\n  Category: " ++ event.code.category ++
      "\n  Severity: " ++ event.code.severity.name
  if event.isError then
    head ++ "\n  Requires halt: " ++ toString event.code.requiresHalt ++
      ((event.code.description?.map ("\n  Description: " ++ ·)).getD "") ++
      ((event.code.action?.map ("\n  Recommended action: " ++ ·)).getD "")
  else head

/-- The JSON record of an event at a time. -/
def record (event : Event) (time : Timestamp) : JsonValue :=
  let context :=
    if event.context.isEmpty then []
    else
      [("context", .record (event.context.map fun (name, value) => (name, JsonValue.text value)))]
  let metadata :=
    if event.isError then
      [("error_metadata", JsonValue.record [
        ("requires_halt", .flag event.code.requiresHalt),
        ("severity", .text event.code.severity.name)])]
    else []
  .record (
    [("category", .text event.code.category), ("code", .text event.code.text)] ++ context ++
      metadata ++
      [("level", .text event.level.name), ("message", .text event.message),
        ("timestamp", .text (time.format "+00:00"))])

/-- The JSON record of an event on one line. -/
def jsonLine (event : Event) (time : Timestamp) : String :=
  (event.record time).compact

/-- A named text leaves the level as it is. -/
@[simp] theorem level_withContext (event : Event) (name value : String) :
    (event.withContext name value).level = event.level := rfl

/-- It leaves the code as it is. -/
@[simp] theorem code_withContext (event : Event) (name value : String) :
    (event.withContext name value).code = event.code := rfl

/-- And it leaves the message as it is. -/
@[simp] theorem message_withContext (event : Event) (name value : String) :
    (event.withContext name value).message = event.message := rfl

/-- A named text that was added is found. -/
@[simp] theorem context?_withContext (event : Event) (name value : String) :
    (event.withContext name value).context? name = some value := by
  simp only [context?, withContext]
  rw [@Keyed.find?_put_self _ Prod.fst (name, value) event.context]
  rfl

end Event

end Conformance.Log
