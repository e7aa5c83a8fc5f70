import Conformance.Grammar.Snafu.Rules
import Conformance.Symbol.Identity
import Conformance.Symbol.Registry

/-!
# The published symbols of Snafu

Snafu publishes its lexer and its parser, and beside them the type of its listeners, which nothing
can be built from.
-/

namespace Conformance.Snafu

/-- The namespace of Snafu. -/
def scope : String := "foo.bar.baz"

/-- The name of the grammar. -/
def name : String := "Snafu"

/-- Builds the lexer of Snafu. -/
def lexerConstructor : LexerConstructor := fun input => .ok (grammar.lexer input)

/-- Builds the parser of Snafu. -/
def parserConstructor : ParserConstructor := fun input => .ok (grammar.parser input)

/-- The symbols, in the order in which they are registered. -/
def symbols : List Descriptor := [
  .lexer (qualifiedName scope name "Lexer") lexerConstructor,
  .parser (qualifiedName scope name "Parser") parserConstructor,
  .plain (qualifiedName scope name "Listener") .other]

/-- Publish Snafu. -/
def publish (registry : Registry) : Log.Journaled (Except RegistryError Unit × Registry) :=
  registry.registerAll symbols

end Conformance.Snafu
