/-!
# Texts of a TOML document

A text stands in double quotes, where a backslash starts an escape, or in single quotes, where every
character stands for itself. In three quotes it may go over several lines; a line break right after
the opening quotes does not belong to it, and up to two further quotes may stand right before the
closing ones. A line break is a line feed, or a carriage return and a line feed, and counts as a
line feed. Control characters other than the tab are refused.

Each reader here starts after the opening quotes and answers the text and the characters after the
closing quotes.
-/

namespace Conformance.Toml

/-- Put a character before a text that was read, when there are both. -/
def prepend (c : Option Char) (read : Option (List Char × List Char)) :
    Option (List Char × List Char) :=
  match c, read with
  | some c, some (text, rest) => some (c :: text, rest)
  | _, _ => none

/-- A character that may stand in a line. -/
def isLineChar (c : Char) : Bool :=
  c == '\t' || (0x20 ≤ c.toNat && c.toNat ≠ 0x7F)

/-- The value of a hexadecimal digit. -/
def hexValue? (c : Char) : Option Nat :=
  if '0' ≤ c ∧ c ≤ '9' then some (c.toNat - '0'.toNat)
  else if 'a' ≤ c ∧ c ≤ 'f' then some (c.toNat - 'a'.toNat + 10)
  else if 'A' ≤ c ∧ c ≤ 'F' then some (c.toNat - 'A'.toNat + 10)
  else none

/-- The character whose number is written in hexadecimal digits. -/
def codePoint? (digits : List Char) : Option Char := do
  let values ← digits.mapM hexValue?
  let number := values.foldl (fun number digit => 16 * number + digit) 0
  if h : number.isValidChar then some (Char.ofNatAux number h) else none

/-- The character that a letter stands for after a backslash. -/
def escape? : Char → Option Char
  | 'b' => some '\x08'
  | 't' => some '\t'
  | 'n' => some '\n'
  | 'f' => some '\x0C'
  | 'r' => some '\r'
  | '"' => some '"'
  | '\\' => some '\\'
  | _ => none

/-- The rest of a text in double quotes. -/
def escapedText : List Char → Option (List Char × List Char)
  | [] => none
  | '"' :: rest => some ([], rest)
  | '\\' :: 'u' :: a :: b :: c :: d :: rest =>
    prepend (codePoint? [a, b, c, d]) (escapedText rest)
  | '\\' :: 'U' :: a :: b :: c :: d :: e :: f :: g :: h :: rest =>
    prepend (codePoint? [a, b, c, d, e, f, g, h]) (escapedText rest)
  | '\\' :: c :: rest => prepend (escape? c) (escapedText rest)
  | c :: rest =>
    if c ≠ '\\' ∧ isLineChar c then prepend (some c) (escapedText rest) else none

/-- The rest of a text in single quotes. -/
def literalText : List Char → Option (List Char × List Char)
  | [] => none
  | '\'' :: rest => some ([], rest)
  | c :: rest => if isLineChar c then prepend (some c) (literalText rest) else none

/-- Nothing but blanks is left on the line. -/
def atLineEnd : List Char → Bool
  | '\n' :: _ => true
  | '\r' :: '\n' :: _ => true
  | ' ' :: rest => atLineEnd rest
  | '\t' :: rest => atLineEnd rest
  | _ => false

/-- The rest of a text in three double quotes. After a backslash at the end of a line, blanks and
line breaks are skipped up to the next other character; `skipping` says that this is going on. -/
def escapedLines (skipping : Bool) : List Char → Option (List Char × List Char)
  | [] => none
  | '"' :: '"' :: '"' :: '"' :: '"' :: rest => some (['"', '"'], rest)
  | '"' :: '"' :: '"' :: '"' :: rest => some (['"'], rest)
  | '"' :: '"' :: '"' :: rest => some ([], rest)
  | '\\' :: 'u' :: a :: b :: c :: d :: rest =>
    prepend (codePoint? [a, b, c, d]) (escapedLines false rest)
  | '\\' :: 'U' :: a :: b :: c :: d :: e :: f :: g :: h :: rest =>
    prepend (codePoint? [a, b, c, d, e, f, g, h]) (escapedLines false rest)
  | '\r' :: '\n' :: rest =>
    if skipping then escapedLines true rest else prepend (some '\n') (escapedLines false rest)
  | '\n' :: rest =>
    if skipping then escapedLines true rest else prepend (some '\n') (escapedLines false rest)
  | '\\' :: c :: rest =>
    if atLineEnd (c :: rest) then escapedLines true rest
    else prepend (escape? c) (escapedLines false rest)
  | c :: rest =>
    if skipping ∧ (c = ' ' ∨ c = '\t') then escapedLines true rest
    else if c ≠ '\\' ∧ isLineChar c then prepend (some c) (escapedLines false rest)
    else none

/-- The rest of a text in three single quotes. -/
def literalLines : List Char → Option (List Char × List Char)
  | [] => none
  | '\'' :: '\'' :: '\'' :: '\'' :: '\'' :: rest => some (['\'', '\''], rest)
  | '\'' :: '\'' :: '\'' :: '\'' :: rest => some (['\''], rest)
  | '\'' :: '\'' :: '\'' :: rest => some ([], rest)
  | '\r' :: '\n' :: rest => prepend (some '\n') (literalLines rest)
  | '\n' :: rest => prepend (some '\n') (literalLines rest)
  | c :: rest => if isLineChar c then prepend (some c) (literalLines rest) else none

/-- The characters after a line break that stands at the front. -/
def afterLineBreak : List Char → List Char
  | '\n' :: rest => rest
  | '\r' :: '\n' :: rest => rest
  | rest => rest

/-- A text with its quotes at the front of the characters. -/
def text : List Char → Option (String × List Char)
  | '"' :: '"' :: '"' :: rest => spelled (escapedLines false (afterLineBreak rest))
  | '\'' :: '\'' :: '\'' :: rest => spelled (literalLines (afterLineBreak rest))
  | rest => line rest
where
  /-- The characters of a text as a text. -/
  spelled (read : Option (List Char × List Char)) : Option (String × List Char) :=
    read.map fun (text, rest) => (String.ofList text, rest)
  /-- A text on one line, with its quotes. -/
  line : List Char → Option (String × List Char)
    | '"' :: rest => spelled (escapedText rest)
    | '\'' :: rest => spelled (literalText rest)
    | _ => none

end Conformance.Toml
