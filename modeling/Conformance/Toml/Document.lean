import Conformance.Toml.Scalar
import Conformance.Toml.Text

/-!
# TOML documents

A document is read line by line: a line is empty, or holds a comment, a header or an entry. The
entries up to the first header belong to the document itself, those after a header to its table.
Lists may go over several lines, tables in braces may not. Lists and braces nest less than eighty
deep, and a key has less than eighty parts.

A document that breaks a rule has no value; the rules say nothing about which of several breaches
comes first.
-/

namespace Conformance.Toml

/-- Lists and braces nest less deep than this, and keys have fewer parts. -/
def nestingLimit : Nat := 80

/-! ## Lines -/

/-- A blank within a line. -/
def isSpace (c : Char) : Bool := c == ' ' || c == '\t'

/-- The characters after the blanks at the front. -/
def skipSpaces (chars : List Char) : List Char := chars.dropWhile isSpace

/-- The characters after a comment, if one starts here. -/
def skipComment : List Char → List Char
  | '#' :: rest => rest.dropWhile isLineChar
  | rest => rest

/-- The characters after a line break. -/
def lineBreak? : List Char → Option (List Char)
  | '\n' :: rest => some rest
  | '\r' :: '\n' :: rest => some rest
  | _ => none

/-- The characters after the end of a line, which may hold blanks and a comment before it. -/
def lineEnd? (chars : List Char) : Option (List Char) :=
  match skipComment (skipSpaces chars) with
  | [] => some []
  | rest => lineBreak? rest

/-- The characters after blanks, line breaks and comments. `comment` says that a comment is going
on. -/
def skipLines (comment : Bool) : List Char → List Char
  | [] => []
  | '\n' :: rest => skipLines false rest
  | '\r' :: '\n' :: rest => skipLines false rest
  | c :: rest =>
    if comment then if isLineChar c then skipLines true rest else c :: rest
    else if isSpace c then skipLines false rest
    else if c = '#' then skipLines true rest
    else c :: rest

/-! ## Keys -/

/-- A character of a key without quotes. -/
def isKeyChar (c : Char) : Bool :=
  c.isAlphanum || c == '-' || c == '_'

/-- One part of a key. -/
def keyPart (chars : List Char) : Option (String × List Char) :=
  match chars with
  | '"' :: _ => text.line chars
  | '\'' :: _ => text.line chars
  | _ =>
    match chars.span isKeyChar with
    | ([], _) => none
    | (part, rest) => some (String.ofList part, rest)

/-- The parts of a key, of which there are fewer than `limit`, and blanks around each of them. -/
def keyParts : Nat → List Char → Option (List String × List Char)
  | 0, _ => none
  | limit + 1, chars => do
    let (part, rest) ← keyPart (skipSpaces chars)
    match skipSpaces rest with
    | '.' :: rest =>
      let (parts, rest) ← keyParts limit rest
      some (part :: parts, rest)
    | rest => some ([part], rest)

/-- A key: the parts before the last one, and the last one. -/
def key (chars : List Char) : Option ((List String × String) × List Char) := do
  let (parts, rest) ← keyParts (nestingLimit - 1) chars
  let last ← parts.getLast?
  some ((parts.dropLast, last), rest)

/-! ## Values -/

/-- An entry: the parts of its key and its value. -/
structure Entry where
  /-- The parts of the key before the last one. -/
  path : List String
  /-- The last part of the key. -/
  key : String
  /-- The value. -/
  value : Value
  deriving Inhabited

/-- The table that entries make up when they are entered in order. -/
def Table.enterAll (path : Path) (entries : List Entry) (table : Table) : Option Table :=
  entries.foldlM (fun table entry => table.enterAt path entry.path entry.key entry.value) table

mutual

/-- A value at the front of the characters, inside at most `room` further lists and braces. Each
step takes one of the `steps`. -/
def value (steps room : Nat) (chars : List Char) : Option (Value × List Char) :=
  match steps with
  | 0 => none
  | steps + 1 =>
    match chars with
    | '"' :: _ => (text chars).map fun (text, rest) => (.text text, rest)
    | '\'' :: _ => (text chars).map fun (text, rest) => (.text text, rest)
    | '[' :: rest =>
      match room with
      | 0 => none
      | room + 1 =>
        match skipLines false rest with
        | ']' :: rest => some (.list [], rest)
        | rest => (items steps room rest).map fun (items, rest) => (.list items, rest)
    | '\x7b' :: rest =>
      match room with
      | 0 => none
      | room + 1 => do
        let (entries, rest) ←
          match skipSpaces rest with
          | '\x7d' :: rest => some ([], rest)
          | rest => fields steps room rest
        let table ← Table.enterAll .braces entries ⟨.defined, []⟩
        some (.braces .defined table.entries, rest)
    | _ =>
      let (word, rest) := word chars
      (scalar? word).map fun value => (value, rest)

/-- The items of a list that has at least one, up to its closing bracket. A comma may stand after
the last item. -/
def items (steps room : Nat) (chars : List Char) : Option (List Value × List Char) :=
  match steps with
  | 0 => none
  | steps + 1 => do
    let (item, rest) ← value steps room (skipLines false chars)
    match skipLines false rest with
    | ']' :: rest => some ([item], rest)
    | ',' :: rest =>
      match skipLines false rest with
      | ']' :: rest => some ([item], rest)
      | rest => do
        let (more, rest) ← items steps room rest
        some (item :: more, rest)
    | _ => none

/-- The entries of a table in braces that has at least one, up to its closing brace. -/
def fields (steps room : Nat) (chars : List Char) : Option (List Entry × List Char) :=
  match steps with
  | 0 => none
  | steps + 1 => do
    let ((path, name), rest) ← key chars
    match rest with
    | '=' :: rest => do
      let (value, rest) ← value steps room (skipSpaces rest)
      match skipSpaces rest with
      | '\x7d' :: rest => some ([⟨path, name, value⟩], rest)
      | ',' :: rest => do
        let (more, rest) ← fields steps room rest
        some (⟨path, name, value⟩ :: more, rest)
      | _ => none
    | _ => none

end

/-! ## Documents -/

/-- What starts a block of entries. -/
inductive Header where
  /-- Nothing: the entries belong to the document. -/
  | none
  /-- A header in brackets. -/
  | table (path : List String) (key : String)
  /-- A header in double brackets. -/
  | item (path : List String) (key : String)
  deriving Repr, DecidableEq, Inhabited

/-- A header and the entries below it. -/
structure Block where
  /-- The header. -/
  header : Header
  /-- The entries. -/
  entries : List Entry
  deriving Inhabited

/-- A header that starts after its first bracket, with the end of its line. -/
def header (chars : List Char) : Option (Header × List Char) :=
  match chars with
  | '[' :: rest => do
    let ((path, name), rest) ← key rest
    match rest with
    | ']' :: ']' :: rest => (lineEnd? rest).map fun rest => (.item path name, rest)
    | _ => none
  | _ => do
    let ((path, name), rest) ← key chars
    match rest with
    | ']' :: rest => (lineEnd? rest).map fun rest => (.table path name, rest)
    | _ => none

/-- An entry on a line of its own, with the end of its line. -/
def entry (chars : List Char) : Option (Entry × List Char) := do
  let ((path, name), rest) ← key chars
  match rest with
  | '=' :: rest => do
    let (value, rest) ← value (2 * rest.length + 2) (nestingLimit - 1) (skipSpaces rest)
    (lineEnd? rest).map fun rest => (⟨path, name, value⟩, rest)
  | _ => none

/-- The lines of a document as blocks, the latest block and its latest entry first. Each line takes
one of the `steps`. -/
def blocks : Nat → List Block → List Char → Option (List Block)
  | 0, _, _ => none
  | steps + 1, done, chars =>
    match skipSpaces chars with
    | [] => some done
    | '[' :: rest => do
      let (header, rest) ← header rest
      blocks steps (⟨header, []⟩ :: done) rest
    | '#' :: rest => do blocks steps done (← lineEnd? ('#' :: rest))
    | '\n' :: rest => blocks steps done rest
    | '\r' :: rest => do blocks steps done (← lineBreak? ('\r' :: rest))
    | rest => do
      let (entry, rest) ← entry rest
      match done with
      | [] => none
      | block :: done =>
        blocks steps ({ block with entries := entry :: block.entries } :: done) rest

/-- Put a block into the document. The table of a header may only have been passed before; the
tables of a header in double brackets are added to those that have it already. -/
def Table.place (block : Block) (document : Table) : Option Table :=
  let fill (table : Table) : Option Table := table.enterAll .dotted block.entries.reverse
  match block.header with
  | .none => fill document
  | .table path key =>
    document.modifyAt .header (fun parent => do
      let start ←
        match parent.entries.lookup key with
        | none => some []
        | some (.table .passed entries) => some entries
        | some _ => none
      let table ← fill ⟨.defined, start⟩
      some { parent with entries := parent.entries.set key (.table .defined table.entries) }) path
  | .item path key =>
    document.modifyAt .header (fun parent => do
      let before ←
        match parent.entries.lookup key with
        | none => some []
        | some (.tables tables) => some tables
        | some _ => none
      let table ← fill ⟨.defined, []⟩
      some { parent with entries := parent.entries.set key (.tables (before ++ [table.entries])) })
      path

/-- The entries of a document. A byte order mark at its start is skipped. -/
def parse? (document : String) : Option Entries := do
  let chars :=
    match document.toList with
    | '\uFEFF' :: rest => rest
    | chars => chars
  let blocks ← blocks (chars.length + 1) [⟨.none, []⟩] chars
  let start : Table := ⟨.defined, []⟩
  let table ← blocks.reverse.foldlM (fun table block => Table.place block table) start
  some table.entries

end Conformance.Toml
