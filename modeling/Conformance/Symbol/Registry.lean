import Conformance.Log.Journal
import Conformance.Symbol.Descriptor
import Conformance.Text.Blank
import Conformance.Text.Keyed

/-!
# The registry of symbols

Languages publish their symbols in a registry. A name is registered once and for all: it is never
replaced or removed, and a blank name is refused. The symbols are kept in the order of their names.
-/

namespace Conformance

/-- The published symbols, in the order of their names. -/
structure Registry where
  /-- The descriptors. -/
  symbols : List Descriptor

/-- Why a symbol was not registered. -/
inductive RegistryError where
  /-- The name is registered already. -/
  | duplicate (name : String)
  /-- The name is blank. -/
  | blankName
  deriving Repr, DecidableEq, Inhabited

namespace RegistryError

/-- The text of the error. -/
def message : RegistryError → String
  | .duplicate name => "Symbol '" ++ name ++ "' is already registered"
  | .blankName => "Symbol name must not be empty"

/-- The code of the error. -/
def code : RegistryError → Log.Code
  | .duplicate _ => .duplicateSymbol
  | .blankName => .invalidConfiguration

end RegistryError

namespace Registry

/-- The registry without symbols. -/
def empty : Registry := ⟨[]⟩

/-- The descriptor of a name. -/
def find? (registry : Registry) (name : String) : Option Descriptor :=
  Keyed.find? Descriptor.name name registry.symbols

/-- The name is registered. -/
def contains (registry : Registry) (name : String) : Bool :=
  (registry.find? name).isSome

/-- The names, in order. -/
def names (registry : Registry) : List String :=
  registry.symbols.map Descriptor.name

/-- The number of symbols. -/
def size (registry : Registry) : Nat :=
  registry.symbols.length

/-- The registry has no symbol. -/
def isEmpty (registry : Registry) : Bool :=
  registry.symbols.isEmpty

/-- The registry with one more symbol. -/
def add (registry : Registry) (symbol : Descriptor) : Except RegistryError Registry :=
  if Text.isAllBlank symbol.name then .error .blankName
  else if registry.contains symbol.name then .error (.duplicate symbol.name)
  else .ok ⟨Keyed.put Descriptor.name symbol registry.symbols⟩

/-- Register a symbol. A second registration of a name is entered into the journal. -/
def register (registry : Registry) (symbol : Descriptor) :
    Log.Journaled (Except RegistryError Registry) := do
  match registry.add symbol with
  | .ok next => return .ok next
  | .error failure =>
    if let .duplicate name := failure then
      Log.emit (.error failure.code "Duplicate symbol registration") [("symbol", name)]
    return .error failure

/-- Register symbols in order, up to the first one that is refused. The symbols before it stay
registered. -/
def registerAll (registry : Registry) :
    List Descriptor → Log.Journaled (Except RegistryError Unit × Registry)
  | [] => return (.ok (), registry)
  | symbol :: symbols => do
    match ← registry.register symbol with
    | .ok next => next.registerAll symbols
    | .error failure => return (.error failure, registry)

/-- A symbol that was added is found under its name. -/
theorem find?_add_self {registry next : Registry} {symbol : Descriptor}
    (added : registry.add symbol = .ok next) : next.find? symbol.name = some symbol := by
  unfold add at added
  split at added
  · cases added
  · split at added
    · cases added
    · cases added
      exact Keyed.find?_put_self symbol registry.symbols

/-- A symbol that was registered before is found unchanged. -/
theorem find?_add_of_find? {registry next : Registry} {symbol found : Descriptor} {name : String}
    (added : registry.add symbol = .ok next) (before : registry.find? name = some found) :
    next.find? name = some found := by
  unfold add at added
  split at added
  · cases added
  · split at added
    · cases added
    · next fresh =>
      cases added
      have other : symbol.name ≠ name := by
        intro same
        simp [contains, same, before] at fresh
      simpa [find?, Keyed.find?_put_of_ne other] using before

end Registry

end Conformance
