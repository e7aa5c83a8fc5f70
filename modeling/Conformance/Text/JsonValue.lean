/-!
# JSON documents

A report and a structured log line are JSON documents. Their values are null, flags, natural
numbers, texts, lists and records whose fields keep their order. A document is written on one line
without any blank, or laid out with two blanks of indentation for each level; an empty list or
record has no inner line in either form.
-/

namespace Conformance

/-- A JSON value whose numbers are natural. -/
inductive JsonValue where
  /-- The null value. -/
  | null
  /-- A flag. -/
  | flag (value : Bool)
  /-- A natural number. -/
  | number (value : Nat)
  /-- A text. -/
  | text (value : String)
  /-- A list of values. -/
  | list (items : List JsonValue)
  /-- A record with its fields in order. -/
  | record (fields : List (String × JsonValue))
  deriving Repr, Inhabited

namespace JsonValue

/-- Four hexadecimal digits, in lower case. -/
def fourDigits (number : Nat) : List Char :=
  [number / 4096 % 16, number / 256 % 16, number / 16 % 16, number % 16].map Nat.digitChar

/-- A character inside a quoted text: quotes, backslashes and control characters are escaped. -/
def escapeChar (c : Char) : List Char :=
  match c with
  | '"' => ['\\', '"']
  | '\\' => ['\\', '\\']
  | '\x08' => ['\\', 'b']
  | '\t' => ['\\', 't']
  | '\n' => ['\\', 'n']
  | '\x0C' => ['\\', 'f']
  | '\r' => ['\\', 'r']
  | c => if c.toNat < 0x20 then '\\' :: 'u' :: fourDigits c.toNat else [c]

/-- A text in quotes. -/
def quote (text : String) : String :=
  "\"" ++ String.ofList (text.toList.flatMap escapeChar) ++ "\""

mutual

/-- The value on one line. -/
def compact : JsonValue → String
  | .null => "null"
  | .flag value => if value then "true" else "false"
  | .number value => toString value
  | .text value => quote value
  | .list items => "[" ++ ",".intercalate (compactItems items) ++ "]"
  | .record fields => "\x7b" ++ ",".intercalate (compactFields fields) ++ "\x7d"

/-- The items of a list, each on one line. -/
def compactItems : List JsonValue → List String
  | [] => []
  | item :: items => compact item :: compactItems items

/-- The fields of a record, each on one line. -/
def compactFields : List (String × JsonValue) → List String
  | [] => []
  | (name, value) :: fields => (quote name ++ ":" ++ compact value) :: compactFields fields

end

/-- The start of a line at a level. -/
def newline (level : Nat) : String :=
  "\n" ++ String.ofList (List.replicate (2 * level) ' ')

/-- Entries between brackets, one a line, and nothing between them when there are none. -/
def enclose (level : Nat) (opening closing : String) : List String → String
  | [] => opening ++ closing
  | entries =>
    opening ++ newline (level + 1) ++ ("," ++ newline (level + 1)).intercalate entries ++
      newline level ++ closing

mutual

/-- The value laid out in lines, inside `level` lists and records. -/
def layout (level : Nat) : JsonValue → String
  | .null => "null"
  | .flag value => if value then "true" else "false"
  | .number value => toString value
  | .text value => quote value
  | .list items => enclose level "[" "]" (layoutItems (level + 1) items)
  | .record fields => enclose level "\x7b" "\x7d" (layoutFields (level + 1) fields)

/-- The items of a list laid out. -/
def layoutItems (level : Nat) : List JsonValue → List String
  | [] => []
  | item :: items => layout level item :: layoutItems level items

/-- The fields of a record laid out. -/
def layoutFields (level : Nat) : List (String × JsonValue) → List String
  | [] => []
  | (name, value) :: fields =>
    (quote name ++ ": " ++ layout level value) :: layoutFields level fields

end

/-- The value laid out in lines. -/
def pretty (value : JsonValue) : String := layout 0 value

end JsonValue

end Conformance
