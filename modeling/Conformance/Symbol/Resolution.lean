import Conformance.Symbol.Identity
import Conformance.Symbol.Registry

/-!
# Finding the implementation of a grammar

The implementation of a grammar in a role is the symbol with the qualified name. It has to have the
capability of the role and a constructor of the role's shape. Where there is no such name, some
registered names that contain the name of the grammar are suggested.
-/

namespace Conformance

/-- The capability that a role asks for. -/
def Role.capability : Role → Capability
  | .lexer => .lexer
  | .parser => .parser

/-- What a constructor for a role builds from. -/
def Role.shape : Role → String
  | .lexer => "char-stream"
  | .parser => "token-stream"

/-- An implementation that has been found. -/
inductive Implementation where
  /-- A lexer. -/
  | lexer (name : String) (construct : LexerConstructor)
  /-- A parser. -/
  | parser (name : String) (construct : ParserConstructor)

namespace Implementation

/-- The name of an implementation. -/
def name : Implementation → String
  | .lexer name _ => name
  | .parser name _ => name

/-- The role of an implementation. -/
def role : Implementation → Role
  | .lexer _ _ => .lexer
  | .parser _ _ => .parser

end Implementation

/-- Why no implementation was found. -/
inductive ResolutionError where
  /-- No symbol has the name. -/
  | notFound (name : String) (suggestions : List String)
  /-- The symbol has another capability. -/
  | wrongCapability (name : String) (required : Capability)
  /-- The symbol has no constructor of the role's shape. -/
  | missingConstructor (name : String) (role : Role)
  deriving Repr, DecidableEq, Inhabited

namespace ResolutionError

/-- The name that was looked for. -/
def symbol : ResolutionError → String
  | .notFound name _ => name
  | .wrongCapability name _ => name
  | .missingConstructor name _ => name

/-- The text of the error. -/
def message : ResolutionError → String
  | .notFound name [] => "Can not find symbol '" ++ name ++ "'"
  | .notFound name suggestions =>
    "Can not find symbol '" ++ name ++ "' (registered: " ++ ", ".intercalate suggestions ++ ")"
  | .wrongCapability name required => "Symbol '" ++ name ++ "' is not a " ++ required.name
  | .missingConstructor name role =>
    "Can not get constructor for '" ++ name ++ "' (expected a " ++ role.shape ++ " constructor)"

/-- The code of the error. -/
def code : ResolutionError → Log.Code
  | .notFound _ _ => .symbolNotFound
  | .wrongCapability _ _ => .wrongCapability
  | .missingConstructor _ _ => .missingConstructor

end ResolutionError

namespace Registry

/-- A text occurs in another one. -/
def occurs (part : List Char) : List Char → Bool
  | [] => part.isEmpty
  | c :: rest => part.isPrefixOf (c :: rest) || occurs part rest

/-- A text that occurs in another one is a part of it, and only then. -/
theorem occurs_iff_isInfix {part whole : List Char} :
    occurs part whole = true ↔ part <:+: whole := by
  induction whole with
  | nil => simp [occurs]
  | cons c rest ih => simp [occurs, ih, List.infix_cons_iff]

/-- The first three registered names that contain the name of a grammar, if it has one. -/
def suggestions (registry : Registry) (grammar : String) : List String :=
  if grammar.isEmpty then []
  else (registry.names.filter fun name => occurs grammar.toList name.toList).take 3

/-- The implementation of a role under a name. -/
def implementation (registry : Registry) (name grammar : String) (role : Role) :
    Except ResolutionError Implementation :=
  match registry.find? name with
  | none => .error (.notFound name (registry.suggestions grammar))
  | some symbol =>
    if symbol.capability ≠ role.capability then .error (.wrongCapability name role.capability)
    else
      match role, symbol.construct with
      | .lexer, some (.lexer construct) => .ok (.lexer name construct)
      | .parser, some (.parser construct) => .ok (.parser name construct)
      | _, _ => .error (.missingConstructor name role)

/-- Find the implementation of a grammar in a role. -/
def resolve (registry : Registry) (scope grammar : String) (role : Role) :
    Log.Attempt ResolutionError Implementation := do
  let name := qualifiedName scope grammar role.suffix
  Log.emit (.info ("Using " ++ role.capability.name ++ " class '" ++ name ++ "'")) []
  match registry.implementation name grammar role with
  | .ok found =>
    Log.emit (.success .symbolResolved "Symbol resolved")
      [("symbol", name), ("role", role.suffix)]
    return found
  | .error failure =>
    Log.emit (.error failure.code failure.message) [("symbol", failure.symbol)]
    throw failure

/-- Find the lexer of a grammar. -/
def resolveLexer (registry : Registry) (identity : GrammarIdentity) :
    Log.Attempt ResolutionError (String × LexerConstructor) := do
  match ← registry.resolve identity.scope identity.name .lexer with
  | .lexer name construct => return (name, construct)
  | .parser name _ => throw (.wrongCapability name .lexer)

/-- Find the parser of a grammar. -/
def resolveParser (registry : Registry) (identity : GrammarIdentity) :
    Log.Attempt ResolutionError (String × ParserConstructor) := do
  match ← registry.resolve identity.scope identity.name .parser with
  | .parser name construct => return (name, construct)
  | .lexer name _ => throw (.wrongCapability name .parser)

end Registry

end Conformance
