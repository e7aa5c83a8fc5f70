import Conformance.Text.Position

/-!
# Tokens

A token is a piece of a source with its kind, its channel and its place. Kinds are the numbers a
grammar gives to its terminals; two of them mean the same in every grammar, the end of the input
and text that no terminal covers. Hidden tokens, such as blanks and comments, are kept but are not
seen by a parser.
-/

namespace Conformance

/-- The number of a terminal. -/
abbrev Kind := Int

/-- The kind of the token that ends every input. -/
def Kind.eof : Kind := -1

/-- The kind of text that no terminal covers. -/
def Kind.invalid : Kind := 0

/-- Whether a parser sees a token. -/
inductive Channel where
  /-- Seen by parsers. -/
  | visible
  /-- Kept in the buffer only. -/
  | hidden
  deriving Repr, DecidableEq, Inhabited

/-- A piece of a source. -/
structure Token where
  /-- The terminal. -/
  kind : Kind
  /-- The characters of the piece. -/
  text : String
  /-- Whether parsers see it. -/
  channel : Channel
  /-- The place of its first character. -/
  position : Position
  /-- Its number in the buffer that fetched it, zero before. -/
  index : Nat
  deriving Repr, DecidableEq, Inhabited

namespace Token

/-- A visible token that no buffer has numbered. -/
def new (kind : Kind) (text : String) (position : Position) : Token :=
  ⟨kind, text, .visible, position, 0⟩

/-- The token that ends an input. -/
def eof (position : Position) : Token :=
  new .eof "<EOF>" position

/-- The same token on the hidden channel. -/
def hide (token : Token) : Token :=
  { token with channel := .hidden }

/-- The same token with its number in a buffer. -/
def number (token : Token) (index : Nat) : Token :=
  { token with index }

/-- The token ends its input. -/
def isEof (token : Token) : Bool :=
  token.kind == .eof

/-- Parsers do not see the token. -/
def isHidden (token : Token) : Bool :=
  token.channel == .hidden

/-- How a character of a token is shown in a message: line ends and tabs by their escapes. -/
def showChar : Char → List Char
  | '\n' => ['\\', 'n']
  | '\r' => ['\\', 'r']
  | '\t' => ['\\', 't']
  | c => [c]

/-- How a token is shown in a message: its text in single quotes on one line, or the end mark. -/
def display (token : Token) : String :=
  if token.isEof then "<EOF>"
  else "'" ++ String.ofList (token.text.toList.flatMap showChar) ++ "'"

/-- The end token is one. -/
@[simp] theorem isEof_eof (position : Position) : (eof position).isEof = true := rfl

/-- Numbering a token does not make it an end token. -/
@[simp] theorem isEof_number (token : Token) (index : Nat) :
    (token.number index).isEof = token.isEof := rfl

/-- Nor does it hide the token. -/
@[simp] theorem isHidden_number (token : Token) (index : Nat) :
    (token.number index).isHidden = token.isHidden := rfl

end Token

end Conformance
