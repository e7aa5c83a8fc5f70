import Conformance.Grammar.Word
import Conformance.Symbol.Descriptor

/-!
# Constructors for Word

Beside the constructors of its lexer and its parser, Word has some that build nothing: they refuse
or break off. They show what happens to a run whose grammar cannot be set up.
-/

namespace Conformance.Word

/-- Builds the lexer of Word. -/
def lexerConstructor : LexerConstructor := fun input => .ok (grammar.lexer input)

/-- Builds the parser of Word. -/
def parserConstructor : ParserConstructor := fun input => .ok (grammar.parser input)

/-- Refuses to build a lexer. -/
def refusingLexer : LexerConstructor := fun _ => .error (.refused "lexer refuses to start")

/-- Refuses to build a parser. -/
def refusingParser : ParserConstructor := fun _ => .error (.refused "parser refuses to start")

/-- Breaks off in place of building a lexer and leaves nothing readable. -/
def crashingLexer : LexerConstructor := fun _ => .error (.crashed .unreadable)

/-- Breaks off in place of building a parser. -/
def crashingParser : ParserConstructor := fun _ =>
  .error (.crashed (.message "parser factory exploded"))

end Conformance.Word
