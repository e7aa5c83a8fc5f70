import Conformance.Token.Lexing

/-!
# The lexical grammar of Snafu

```text
ID      : [a-zA-Z_] [a-zA-Z0-9_]* ;
INT     : [0-9]+ ;
STRING  : '"' ( '\\' . | ~["\\\r\n] )* '"' ;
WS      : [ \t\r\n]+ -> hidden ;
COMMENT : '//' ~[\r\n]* -> hidden ;
```

The keywords `let` and `print` and the symbols `= ; + - * / ( )` are kinds of their own. The
longest lexeme wins. A character that starts no lexeme is invalid alone, except that a string
without its closing quote is invalid up to the end of its line.
-/

namespace Conformance.Snafu

/-! ## Kinds -/

/-- The keyword `let`. -/
abbrev letKind : Kind := 1
/-- The keyword `print`. -/
abbrev printKind : Kind := 2
/-- The sign `=`. -/
abbrev assignKind : Kind := 3
/-- The sign `;`. -/
abbrev semicolonKind : Kind := 4
/-- The sign `+`. -/
abbrev plusKind : Kind := 5
/-- The sign `-`. -/
abbrev minusKind : Kind := 6
/-- The sign `*`. -/
abbrev starKind : Kind := 7
/-- The sign `/`. -/
abbrev slashKind : Kind := 8
/-- The sign `(`. -/
abbrev openKind : Kind := 9
/-- The sign `)`. -/
abbrev closeKind : Kind := 10
/-- A name that is no keyword. -/
abbrev nameKind : Kind := 11
/-- A run of digits. -/
abbrev numberKind : Kind := 12
/-- A string with both quotes. -/
abbrev stringKind : Kind := 13
/-- A run of blanks. -/
abbrev blankKind : Kind := 14
/-- A comment up to the end of its line. -/
abbrev commentKind : Kind := 15

/-- The display names of the kinds from zero on. -/
def vocabulary : List String :=
  ["<INVALID>", "'let'", "'print'", "'='", "';'", "'+'", "'-'", "'*'", "'/'", "'('", "')'", "ID",
    "INT", "STRING", "WS", "COMMENT"]

/-! ## Character classes -/

/-- A character that starts a name. -/
def startsName (c : Char) : Bool :=
  c.isAlpha || c == '_'

/-- A character that goes on with a name. -/
def continuesName (c : Char) : Bool :=
  c.isAlphanum || c == '_'

/-- A character of a run of blanks. -/
def isSpace (c : Char) : Bool :=
  c == ' ' || c == '\t' || c == '\r' || c == '\n'

/-- A character that ends a line. -/
def endsLine (c : Char) : Bool :=
  c == '\r' || c == '\n'

/-! ## Lexemes -/

/-- The kind of a name: a keyword or an identifier. -/
def kindOfName (text : List Char) : Kind :=
  if text = ['l', 'e', 't'] then letKind
  else if text = ['p', 'r', 'i', 'n', 't'] then printKind
  else nameKind

/-- The kind of a lexeme that starts with a quote, and the number of its characters after those
already `taken` behind that quote. A backslash takes the next character with it, whatever that is;
the end of the line or of the text comes before the closing quote of an invalid lexeme. -/
def scanString (taken : Nat) : List Char → Kind × Nat
  | [] => (.invalid, taken)
  | '"' :: _ => (stringKind, taken + 1)
  | ['\\'] => (.invalid, taken + 1)
  | '\\' :: _ :: rest => scanString (taken + 2) rest
  | c :: rest => if endsLine c then (.invalid, taken) else scanString (taken + 1) rest

/-- The number of leading characters in a class, added to those already `taken`. -/
def runLength (inClass : Char → Bool) (taken : Nat) : List Char → Nat
  | [] => taken
  | c :: rest => if inClass c then runLength inClass (taken + 1) rest else taken

/-- The kind of the lexeme that starts with a character, and the number of its further
characters. -/
def scan (first : Char) (rest : List Char) : Kind × Nat :=
  if first == ';' then (semicolonKind, 0)
  else if first == '=' then (assignKind, 0)
  else if first == '+' then (plusKind, 0)
  else if first == '-' then (minusKind, 0)
  else if first == '*' then (starKind, 0)
  else if first == '(' then (openKind, 0)
  else if first == ')' then (closeKind, 0)
  else if first == '/' then
    if rest.head? == some '/' then (commentKind, runLength (fun c => !endsLine c) 0 rest)
    else (slashKind, 0)
  else if first == '"' then scanString 0 rest
  else if first.isDigit then (numberKind, runLength Char.isDigit 0 rest)
  else if startsName first then
    let more := runLength continuesName 0 rest
    (kindOfName (first :: rest.take more), more)
  else if isSpace first then (blankKind, runLength isSpace 0 rest)
  else (.invalid, 0)

/-- The lexical grammar of Snafu. -/
def lexical : LexicalGrammar where
  scan
  isHidden kind := kind == blankKind || kind == commentKind

/-- The length of a run is that of the longest prefix in the class. -/
theorem runLength_eq (inClass : Char → Bool) (taken : Nat) (text : List Char) :
    runLength inClass taken text = taken + (text.takeWhile inClass).length := by
  induction text generalizing taken with
  | nil => rfl
  | cons c rest ih =>
    simp only [runLength, List.takeWhile_cons]
    split <;> simp [ih]
    omega

end Conformance.Snafu
