import Conformance.Recognition.Parser
import Conformance.Run.SourceFile
import Conformance.Symbol.Descriptor

/-!
# Assemblies

An assembly is the lexer and the parser that were found for a grammar. It sets up a fresh parser
for each source file: the file is decoded, the lexer is built on its text and the parser on the
lexer's tokens. The parser gives up at its first error.
-/

namespace Conformance

/-- The implementations that work together on a source. -/
structure Assembly where
  /-- The name of the lexer. -/
  lexerName : String
  /-- Builds the lexer. -/
  constructLexer : LexerConstructor
  /-- The name of the parser. -/
  parserName : String
  /-- Builds the parser. -/
  constructParser : ParserConstructor

/-- Why an implementation could not be built. -/
inductive ConstructionError where
  /-- The lexer of a name was not built. -/
  | lexer (name : String) (failure : ConstructionFailure)
  /-- The parser of a name was not built. -/
  | parser (name : String) (failure : ConstructionFailure)
  deriving Repr, DecidableEq, Inhabited

namespace ConstructionError

/-- The text of the error. -/
def message : ConstructionError → String
  | .lexer name failure => "Can not construct lexer '" ++ name ++ "': " ++ failure.message
  | .parser name failure => "Can not construct parser '" ++ name ++ "': " ++ failure.message

/-- The code of the error. -/
def code : ConstructionError → Log.Code
  | .lexer _ _ => .lexerConstruction
  | .parser _ _ => .parserConstruction

end ConstructionError

/-- Why there is no parser for a source file. -/
inductive AssemblyError where
  /-- The file has no text. -/
  | source (error : SourceError)
  /-- An implementation could not be built. -/
  | construction (error : ConstructionError)
  deriving Repr, DecidableEq, Inhabited

namespace AssemblyError

/-- The text of the error. -/
def message : AssemblyError → String
  | .source error => "Source read failed: " ++ error.message
  | .construction error => "Construction failed: " ++ error.message

/-- The code of the error. -/
def code : AssemblyError → Log.Code
  | .source error => error.code
  | .construction error => error.code

end AssemblyError

namespace Assembly

/-- Build the parser on a text. -/
def construct (assembly : Assembly) (text : CharStream) : Except ConstructionError Parser :=
  match assembly.constructLexer text with
  | .error failure => .error (.lexer assembly.lexerName failure)
  | .ok lexer =>
    match assembly.constructParser (TokenBuffer.ofSource lexer) with
    | .error failure => .error (.parser assembly.parserName failure)
    | .ok parser => .ok (parser.withStrategy .failFast)

/-- Read a source file and build the parser on its text. -/
def prepare (assembly : Assembly) (tree : FileTree) (file : SourceFile) :
    Log.Attempt AssemblyError Parser := do
  let text ← (file.read tree).adapt AssemblyError.source
  Log.attempt ((assembly.construct text).mapError AssemblyError.construction)

/-- Set up the parser for a source file. -/
def build (assembly : Assembly) (tree : FileTree) (file : SourceFile) :
    Log.Attempt AssemblyError Parser := ExceptT.mk do
  match ← (assembly.prepare tree file).run with
  | .ok parser =>
    Log.emit (.success .pipelineBuilt "Pipeline built")
      [("file", parser.sourceName), ("lexer", assembly.lexerName),
        ("parser", assembly.parserName)]
    return .ok parser
  | .error error =>
    Log.emit (.error error.code error.message) [("file", file.path)]
    return .error error

end Assembly

end Conformance
