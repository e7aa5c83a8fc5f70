import Conformance.Log.Event

/-!
# A log that keeps what matters

A service keeps the events at or above its least level, in order.
-/

namespace Conformance.Log

/-- A log with a least level. -/
structure Service where
  /-- The least level that is kept. -/
  least : Level
  /-- The events kept, in order. -/
  kept : Array Event
  deriving Repr, Inhabited

namespace Service

/-- A log that has not kept anything yet. -/
def ofLevel (least : Level) : Service := ⟨least, #[]⟩

/-- Events of a level are kept. -/
def keeps (service : Service) (level : Level) : Bool :=
  level.passes service.least

/-- Keep an event whatever its level. -/
def keep (service : Service) (event : Event) : Service :=
  { service with kept := service.kept.push event }

/-- Keep an event if its level matters. -/
def log (service : Service) (event : Event) : Service :=
  if service.keeps event.level then service.keep event else service

/-- Forget all events. -/
def clear (service : Service) : Service :=
  { service with kept := #[] }

/-- The failures kept, in order. -/
def errors (service : Service) : Array Event :=
  service.kept.filter Event.isError

/-- An event with a code has been kept. -/
def hasCode (service : Service) (code : Code) : Bool :=
  service.kept.any fun event => event.code == code

/-- Set up the log of a program, which has none yet; a second log is refused. -/
def install (current : Option Service) (next : Service) : Except String Service :=
  match current with
  | none => .ok next
  | some _ => .error "Global logger already initialized"

end Service

end Conformance.Log
