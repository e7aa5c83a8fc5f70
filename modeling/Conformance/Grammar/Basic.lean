import Conformance.Recognition.Parser

/-!
# Grammars

A grammar is what a lexer and a parser of one language need: its lexical rules, the display names
of its terminals, and its rules with their descriptions.
-/

namespace Conformance

/-- A language with its lexer and its parser. -/
structure Grammar where
  /-- How a text is cut into tokens. -/
  lexical : LexicalGrammar
  /-- The display names of the kinds from zero on. -/
  vocabulary : List String
  /-- The description of the rules. -/
  table : List RuleEntry
  /-- The rule of a name. -/
  rule : String → Rule Unit

namespace Grammar

/-- The lexer of the grammar at the start of a stream. -/
def lexer (grammar : Grammar) (input : CharStream) : TokenSource :=
  .lexer grammar.lexical input

/-- The parser of the grammar over a buffer. -/
def parser (grammar : Grammar) (input : TokenBuffer) : Parser :=
  ⟨grammar.table, grammar.rule, Recognizer.ofInput grammar.vocabulary input⟩

/-- The parser of the grammar over its own lexer. -/
def parserOf (grammar : Grammar) (input : CharStream) : Parser :=
  grammar.parser (TokenBuffer.ofSource (grammar.lexer input))

end Grammar

end Conformance
