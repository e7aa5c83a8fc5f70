import Conformance.Encoding.Label
import Conformance.Files.Tree
import Conformance.Log.Journal
import Conformance.Text.CharStream

/-!
# Source files

A source file is read as a whole and decoded. Its encoding has to be known before anything is
looked at, and a file beyond the greatest size is refused without being read. Bytes that stand for
no text in the encoding are an error, so what is read stands for exactly the bytes of the file.
-/

namespace Conformance

/-- A file with the label of its encoding. -/
structure SourceFile where
  /-- The path of the file, which is also the name of the source. -/
  path : String
  /-- The label of its encoding. -/
  label : String
  deriving Repr, DecidableEq, Inhabited

/-- The greatest number of bytes of a source file. -/
def SourceFile.greatestSize : Nat := 10485760

/-- Why a source file has no text. -/
inductive SourceError where
  /-- There is no such file. -/
  | notFound (path : String)
  /-- The path cannot be followed. -/
  | unreadable (path : String) (reason : FileError)
  /-- No encoding has the label. -/
  | unsupportedEncoding (path label : String)
  /-- The bytes are malformed in the encoding of a name. -/
  | malformed (path encoding : String)
  /-- The file is too large. -/
  | tooLarge (path : String) (size : Nat)
  deriving Repr, DecidableEq, Inhabited

namespace SourceError

/-- The path of the file. -/
def path : SourceError → String
  | .notFound path => path
  | .unreadable path _ => path
  | .unsupportedEncoding path _ => path
  | .malformed path _ => path
  | .tooLarge path _ => path

/-- The text of the error. -/
def message : SourceError → String
  | .notFound path => "Source file not found: " ++ path
  | .unreadable path reason => "I/O error reading '" ++ path ++ "': " ++ reason.message
  | .unsupportedEncoding path label =>
    "Unsupported encoding '" ++ label ++ "' for '" ++ path ++ "'"
  | .malformed path encoding => "'" ++ path ++ "' is not valid " ++ encoding
  | .tooLarge path size =>
    "Source file too large: '" ++ path ++ "' has " ++ toString size ++ " bytes (max: " ++
      toString SourceFile.greatestSize ++ ")"

/-- The code of the error. -/
def code : SourceError → Log.Code
  | .notFound _ => .sourceNotFound
  | .unreadable _ _ => .sourceUnreadable
  | .unsupportedEncoding _ _ => .unsupportedEncoding
  | .malformed _ _ => .malformedSource
  | .tooLarge _ _ => .sourceTooLarge

end SourceError

namespace SourceFile

/-- The label of UTF-8. -/
def utf8Label : String := "utf-8"

/-- A file in UTF-8. -/
def utf8 (path : String) : SourceFile := ⟨path, utf8Label⟩

/-- What the file holds, if it is a file and not too large. -/
def content (file : SourceFile) (tree : FileTree) : Except SourceError Content :=
  match tree.resolve file.path with
  | .error .notFound => .error (.notFound file.path)
  | .error reason => .error (.unreadable file.path reason)
  | .ok (_, .file content) =>
    if greatestSize < content.size then .error (.tooLarge file.path content.size)
    else .ok content
  | .ok _ => .error (.notFound file.path)

/-- The encoding of the file, its bytes and the text that they stand for. -/
def decode (file : SourceFile) (tree : FileTree) :
    Except SourceError (Encoding × ByteArray × String) :=
  match Encoding.ofLabel? file.label with
  | none => .error (.unsupportedEncoding file.path file.label)
  | some encoding => do
    let bytes := (← file.content tree).data
    match encoding.decode bytes with
    | none => .error (.malformed file.path encoding.name)
    | some text => .ok (encoding, bytes, text)

/-- Read the file and decode it. -/
def read (file : SourceFile) (tree : FileTree) : Log.Attempt SourceError CharStream := do
  let (encoding, bytes, text) ← Log.attempt (file.decode tree)
  Log.emit (.debug "Source decoded")
    [("file", file.path), ("encoding", encoding.name), ("bytes", toString bytes.size)]
  return CharStream.ofText file.path text

end SourceFile

end Conformance
