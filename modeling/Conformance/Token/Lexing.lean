import Conformance.Text.CharStream
import Conformance.Token.Basic

/-!
# Lexing

A lexical grammar tells, for the next character and those after it, the kind of the lexeme that
starts there and how many further characters belong to it. A lexeme is thus never empty, and
cutting a text into tokens ends. At the end of its text a lexer answers the end token for ever.
-/

namespace Conformance

/-- The rules that cut a text into lexemes. -/
structure LexicalGrammar where
  /-- The kind of the lexeme that starts with a character, and the number of the characters after
  the first one that belong to it. -/
  scan : Char → List Char → Kind × Nat
  /-- The kinds on the hidden channel. -/
  isHidden : Kind → Bool

namespace LexicalGrammar

/-- The token of a lexeme, on the channel of its kind. -/
def token (grammar : LexicalGrammar) (kind : Kind) (text : List Char) (position : Position) :
    Token :=
  let token := Token.new kind (String.ofList text) position
  if grammar.isHidden kind then token.hide else token

/-- The next token of a stream, and the stream after it. -/
def next (grammar : LexicalGrammar) (stream : CharStream) : Token × CharStream :=
  match stream.rest with
  | [] => (Token.eof stream.position, stream)
  | c :: rest =>
    let (kind, more) := grammar.scan c rest
    let (text, after) := stream.take (more + 1)
    (grammar.token kind text stream.position, after)

/-- At the end of the text the answer is the end token. -/
theorem next_of_rest_nil (grammar : LexicalGrammar) {stream : CharStream}
    (finished : stream.rest = []) :
    grammar.next stream = (Token.eof stream.position, stream) := by
  simp [next, finished]

/-- Before the end, a token takes at least one character. -/
theorem length_rest_next_lt (grammar : LexicalGrammar) {stream : CharStream}
    (more : stream.rest ≠ []) :
    (grammar.next stream).2.rest.length < stream.rest.length := by
  match h : stream.rest with
  | [] => exact absurd h more
  | c :: rest =>
    simp only [next, h, CharStream.take, List.length_cons, List.length_drop]
    omega

end LexicalGrammar

end Conformance
