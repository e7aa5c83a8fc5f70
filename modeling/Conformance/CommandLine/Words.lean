import Conformance.CommandLine.Basic

/-!
# The words of a command line

A word that starts with two dashes names an option, and its value may follow an equals sign. A word
that starts with one dash holds letters of options, and what follows the letter of a setting is its
value. A setting without a value there takes the next word, unless that is an option itself. After
two dashes alone there are no options any more.

A setting gets its value only when the next option, or the end, is reached. So a word that means
nothing is refused before a faulty value ahead of it.
-/

namespace Conformance

/-- What a word of a command line looks like. -/
inductive CommandWord where
  /-- The name of an option, perhaps with a value. -/
  | named (name : String) (value : Option String)
  /-- Letters of options. -/
  | lettered (letters : List Char)
  /-- Options end here. -/
  | terminator
  /-- Any other word. -/
  | plain (text : String)
  deriving Repr, DecidableEq, Inhabited

/-- What a word looks like. -/
def CommandWord.ofText (text : String) : CommandWord :=
  match text.toList with
  | ['-', '-'] => .terminator
  | '-' :: '-' :: rest =>
    match rest.dropWhile (· ≠ '=') with
    | [] => .named (String.ofList rest) none
    | _ :: value =>
      .named (String.ofList (rest.takeWhile (· ≠ '='))) (some (String.ofList value))
  | '-' :: c :: rest => .lettered (c :: rest)
  | _ => .plain text

namespace CommandLine

/-- What has been read of a command line: what it asks for so far, and the latest setting as long
as it has not got its value. -/
structure Reading where
  /-- What it asks for so far. -/
  line : CommandLine
  /-- The setting without a value so far, with the word for it if that has been read. -/
  pending : Option (Setting × Option String)
  deriving Repr, DecidableEq, Inhabited

namespace Reading

/-- Nothing has been read. -/
def start : Reading := ⟨.empty, none⟩

/-- Give the pending setting its value. -/
def settle (reading : Reading) : Except Refusal CommandLine :=
  match reading.pending with
  | none => .ok reading.line
  | some (setting, some value) => reading.line.give setting value
  | some (setting, none) => .error (.missingValue setting)

/-- Read a setting, whose value may be attached to it. -/
def readSetting (reading : Reading) (setting : Setting) (attached : Option String) :
    Except Refusal Reading := do
  let line ← reading.settle
  match attached with
  | some value => return ⟨← line.give setting value, none⟩
  | none => return ⟨line, some (setting, none)⟩

/-- Read a switch. -/
def readSwitch (reading : Reading) (switch : Switch) : Except Refusal Reading := do
  let line ← reading.settle
  return ⟨← line.turnOn switch, none⟩

/-- The value that is attached to the letter of a setting. -/
def attachedTo : List Char → Option String
  | [] => none
  | '=' :: value => some (String.ofList value)
  | value => some (String.ofList value)

/-- Read the letters of options. -/
def readLetters (reading : Reading) : List Char → Except Refusal Reading
  | [] => .ok reading
  | letter :: letters =>
    match CommandOption.ofLetter? letter with
    | none => .error (.unknownWord (String.ofList ['-', letter]))
    | some (.setting setting) => reading.readSetting setting (attachedTo letters)
    | some (.switch switch) => do
      (← reading.readSwitch switch).readLetters letters

/-- Read the words of a command line. -/
def readWords (reading : Reading) : List String → Except Refusal CommandLine
  | [] => reading.settle
  | word :: words =>
    match CommandWord.ofText word with
    | .named name value =>
      match CommandOption.ofName? name, value with
      | none, _ => .error (.unknownWord word)
      | some (.setting setting), value => do
        (← reading.readSetting setting value).readWords words
      | some (.switch switch), none => do
        (← reading.readSwitch switch).readWords words
      | some (.switch switch), some _ => .error (.unneededValue switch)
    | .lettered letters => do
      (← reading.readLetters letters).readWords words
    | .terminator =>
      match words with
      | [] => reading.settle
      | extra :: _ => .error (.unknownWord extra)
    | .plain text =>
      match reading.pending with
      | some (setting, none) => readWords ⟨reading.line, some (setting, some text)⟩ words
      | _ => .error (.unknownWord word)

end Reading

/-- What the words of a command line ask for. -/
def ofWords (words : List String) : Except Refusal CommandLine :=
  Reading.start.readWords words

end CommandLine

end Conformance
