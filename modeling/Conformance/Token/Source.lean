import Conformance.Token.Lexing

/-!
# Token sources

A token source is asked for one token after the other. It is a lexer at its place in a text, or a
script of tokens to hand out, and once it has run out it answers the end token for ever. A script
may hold end tokens before its own end.
-/

namespace Conformance

/-- Something that hands out tokens. -/
inductive TokenSource where
  /-- A lexer at its place in a text. -/
  | lexer (grammar : LexicalGrammar) (input : CharStream)
  /-- A named script of tokens. -/
  | script (name : String) (tokens : List Token)

namespace TokenSource

/-- The name of the source. -/
def name : TokenSource → String
  | .lexer _ input => input.name
  | .script name _ => name

/-- The next token, and the source after handing it out. -/
def next : TokenSource → Token × TokenSource
  | .lexer grammar input =>
    let (token, rest) := grammar.next input
    (token, .lexer grammar rest)
  | .script name [] => (Token.eof Position.start, .script name [])
  | .script name (token :: rest) => (token, .script name rest)

/-- A bound on the tokens that come before the source has run out. -/
def remaining : TokenSource → Nat
  | .lexer _ input => input.rest.length
  | .script _ tokens => tokens.length

/-- Handing out a token keeps the name. -/
@[simp] theorem name_next (source : TokenSource) : source.next.2.name = source.name := by
  match source with
  | .lexer grammar input =>
    unfold next name
    simp only [LexicalGrammar.next]
    split <;> simp [CharStream.take]
  | .script _ [] => rfl
  | .script _ (_ :: _) => rfl

/-- A token that does not end the input brings its source closer to its end. -/
theorem remaining_next_lt {source : TokenSource} (going : source.next.1.isEof = false) :
    source.next.2.remaining < source.remaining := by
  match source with
  | .lexer grammar input =>
    refine grammar.length_rest_next_lt ?_
    intro finished
    simp [next, grammar.next_of_rest_nil finished] at going
  | .script _ [] => simp [next] at going
  | .script _ (_ :: _) => simp [next, remaining]

end TokenSource

end Conformance
