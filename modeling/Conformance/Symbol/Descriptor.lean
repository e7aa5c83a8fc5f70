import Conformance.Recognition.Parser

/-!
# Descriptors of symbols

A symbol is a name under which a language publishes something. Its descriptor says what it can do
and, if it can be built, how: a lexer from a character stream, a parser from a token buffer. A
constructor may refuse to build anything or break off.
-/

namespace Conformance

/-- What a symbol can do. -/
inductive Capability where
  /-- It cuts texts into tokens. -/
  | lexer
  /-- It recognizes token sequences. -/
  | parser
  /-- It does something else. -/
  | other
  deriving Repr, DecidableEq, Inhabited

/-- The name of a capability. -/
def Capability.name : Capability → String
  | .lexer => "lexer"
  | .parser => "parser"
  | .other => "type"

/-- Why a constructor built nothing. -/
inductive ConstructionFailure where
  /-- It refused. -/
  | refused (message : String)
  /-- It broke off. -/
  | crashed (crash : Crash)
  deriving Repr, DecidableEq, Inhabited

/-- The text of a failed construction. -/
def ConstructionFailure.message : ConstructionFailure → String
  | .refused message => message
  | .crashed crash => "factory panicked: " ++ crash.text

/-- Builds a lexer. -/
abbrev LexerConstructor := CharStream → Except ConstructionFailure TokenSource

/-- Builds a parser. -/
abbrev ParserConstructor := TokenBuffer → Except ConstructionFailure Parser

/-- How a symbol is built. -/
inductive Constructor where
  /-- From a character stream. -/
  | lexer (construct : LexerConstructor)
  /-- From a token buffer. -/
  | parser (construct : ParserConstructor)

/-- What a constructor builds. -/
def Constructor.builds : Constructor → Capability
  | .lexer _ => .lexer
  | .parser _ => .parser

/-- What is known about a symbol. -/
structure Descriptor where
  /-- The name of the symbol. -/
  name : String
  /-- What it can do. -/
  capability : Capability
  /-- How it is built, if it can be. -/
  construct : Option Constructor

namespace Descriptor

/-- The descriptor of a lexer. -/
def lexer (name : String) (construct : LexerConstructor) : Descriptor :=
  ⟨name, .lexer, some (.lexer construct)⟩

/-- The descriptor of a parser. -/
def parser (name : String) (construct : ParserConstructor) : Descriptor :=
  ⟨name, .parser, some (.parser construct)⟩

/-- The descriptor of a symbol that cannot be built. -/
def plain (name : String) (capability : Capability) : Descriptor :=
  ⟨name, capability, none⟩

end Descriptor

end Conformance
