import Conformance.Grammar.Snafu.Publication
import Conformance.Grammar.Word.Constructors
import Conformance.Proofs.Files.Tree
import Conformance.Proofs.Grammar.Built
import Conformance.Proofs.Recognition.Naming
import Conformance.Proofs.Run.Answer
import Conformance.Proofs.Symbol.Resolution

/-!
# What becomes of a source

With the implementations of Snafu and of Word, and with those that build nothing, what becomes of a
source follows from its bytes. Its path is only put on the result.
-/

namespace Conformance

/-! ## Implementations -/

/-- The constructors of Snafu and of Word, and those that build nothing. -/
inductive Constructor.Known : Constructor → Prop
  /-- Builds the lexer of Snafu. -/
  | snafuLexer : Known (.lexer Snafu.lexerConstructor)
  /-- Builds the parser of Snafu. -/
  | snafuParser : Known (.parser Snafu.parserConstructor)
  /-- Builds the lexer of Word. -/
  | wordLexer : Known (.lexer Word.lexerConstructor)
  /-- Builds the parser of Word. -/
  | wordParser : Known (.parser Word.parserConstructor)
  /-- Refuses to build a lexer, or breaks off. -/
  | failingLexer (failure : ConstructionFailure) : Known (.lexer fun _ => .error failure)
  /-- Refuses to build a parser, or breaks off. -/
  | failingParser (failure : ConstructionFailure) : Known (.parser fun _ => .error failure)

/-- Under any names, a registry holds known constructors only. -/
def Registry.Known (registry : Registry) : Prop :=
  ∀ symbol ∈ registry.symbols, ∀ construct, symbol.construct = some construct → construct.Known

namespace Registry

variable {registry : Registry}

/-- An implementation is built by the constructor of a symbol. -/
theorem exists_symbol {name grammar : String} {role : Role} {found : Implementation}
    (resolved : registry.implementation name grammar role = .ok found) :
    ∃ symbol ∈ registry.symbols, symbol.construct = some found.constructor := by
  cases implementation_eq_iff.1 resolved with
  | found known same built named plays =>
    exact ⟨_, List.mem_of_find?_eq_some known, built⟩

/-- The lexer that is found for a grammar is known. -/
theorem Known.lexer (known : registry.Known) {identity : GrammarIdentity}
    {found : String × LexerConstructor} (resolved : registry.lexer? identity = .ok found) :
    (Constructor.lexer found.2).Known := by
  obtain ⟨implementation, implemented, shaped⟩ := Log.exists_of_bind_eq_ok resolved
  obtain ⟨symbol, member, built⟩ := exists_symbol implemented
  cases implementation with
  | lexer name construct =>
    cases shaped
    exact known symbol member _ built
  | parser name construct => cases shaped

/-- The parser that is found for a grammar is known. -/
theorem Known.parser (known : registry.Known) {identity : GrammarIdentity}
    {found : String × ParserConstructor} (resolved : registry.parser? identity = .ok found) :
    (Constructor.parser found.2).Known := by
  obtain ⟨implementation, implemented, shaped⟩ := Log.exists_of_bind_eq_ok resolved
  obtain ⟨symbol, member, built⟩ := exists_symbol implemented
  cases implementation with
  | lexer name construct => cases shaped
  | parser name construct =>
    cases shaped
    exact known symbol member _ built

end Registry

/-- An assembly of known constructors. -/
structure Assembly.Known (assembly : Assembly) : Prop where
  /-- The lexer is known. -/
  lexer : (Constructor.lexer assembly.constructLexer).Known
  /-- The parser is known. -/
  parser : (Constructor.parser assembly.constructParser).Known

/-- In a known registry every assembly is known. -/
theorem Run.known_of_assembly? {run : Run} (known : run.registry.Known) {assembly : Assembly}
    (found : run.assembly? = .ok assembly) : assembly.Known := by
  obtain ⟨identity, -, assembled⟩ := Log.exists_of_bind_eq_ok found
  obtain ⟨lexer, lexerFound, further⟩ := Log.exists_of_bind_eq_ok assembled
  obtain ⟨parser, parserFound, same⟩ := Log.exists_of_bind_eq_ok further
  cases same
  exact ⟨known.lexer (Log.eq_ok_of_mapError lexerFound),
    known.parser (Log.eq_ok_of_mapError parserFound)⟩

/-! ## Names -/

namespace Assembly

variable {assembly : Assembly}

/-- Under another name of the source the same parser is built but for that name. -/
theorem construct_named (known : assembly.Known) (name text : String) :
    assembly.construct (.ofText name text) =
      (assembly.construct (.ofText "" text)).map (·.named name) := by
  obtain ⟨lexerName, constructLexer, parserName, constructParser⟩ := assembly
  obtain ⟨lexer, parser⟩ := known
  cases lexer <;> cases parser <;> rfl

/-- A known parser offers the rules of Snafu or of Word. -/
theorem offers_of_construct (known : assembly.Known) {input : CharStream} {parser : Parser}
    (constructed : assembly.construct input = .ok parser) :
    ∃ grammar : Grammar, (grammar = Snafu.grammar ∨ grammar = Word.grammar) ∧
      grammar.Offers parser := by
  obtain ⟨lexerName, constructLexer, parserName, constructParser⟩ := assembly
  obtain ⟨-, knownParser⟩ := known
  unfold construct at constructed
  cases lexed : constructLexer input with
  | error failure =>
    simp only [lexed] at constructed
    cases constructed
  | ok lexer =>
    simp only [lexed] at constructed
    cases knownParser with
    | snafuParser =>
      cases constructed
      exact ⟨Snafu.grammar, .inl rfl, rfl, rfl, rfl⟩
    | wordParser =>
      cases constructed
      exact ⟨Word.grammar, .inr rfl, rfl, rfl, rfl⟩
    | failingParser failure => cases constructed

/-- So does one for a source file. -/
theorem Known.offers (known : assembly.Known) {tree : FileTree} {file : SourceFile}
    {parser : Parser} (prepared : assembly.parserOf tree file = .ok parser) :
    ∃ grammar : Grammar, (grammar = Snafu.grammar ∨ grammar = Word.grammar) ∧
      grammar.Offers parser := by
  obtain ⟨⟨encoding, bytes, text⟩, -, constructed⟩ := Log.exists_of_bind_eq_ok prepared
  exact offers_of_construct known (Log.eq_ok_of_mapError constructed)

/-- The rules of a known parser are built. -/
theorem built_of_construct (known : assembly.Known) {input : CharStream} {parser : Parser}
    (constructed : assembly.construct input = .ok parser) (rule : String) :
    (parser.rule rule).Built := by
  obtain ⟨grammar, language, offers⟩ := offers_of_construct known constructed
  exact offers.built language rule

end Assembly

/-- What becomes of a source says its name and is else the same under every name. -/
theorem Parser.verdict_named (parser : Parser) {rule : String} (built : (parser.rule rule).Built)
    (name : String) :
    (parser.named name).verdict rule =
      (parser.verdict rule).map fun result => { result with file := name } := by
  have table : (parser.named name).table = parser.table := rfl
  unfold verdict
  rw [parser.invoke_named built, parser.sourceName_named, table]
  cases RuleEntry.admit parser.table rule with
  | error error => rfl
  | ok admitted =>
    cases (parser.invoke rule).1 with
    | ok accepted => rfl
    | error failure =>
      cases failure with
      | cancelled cause => rfl
      | internal message => rfl
      | crashed crash => rfl

/-! ## Sources -/

/-- The error at which the start rule rejects bytes, if it does. -/
def Assembly.rejection (assembly : Assembly) (settings : Settings) (bytes : ByteArray) :
    Option RecognitionError := do
  let encoding ← Encoding.ofLabel? settings.encoding
  let text ← encoding.decode bytes
  let parser ← (assembly.construct (.ofText "" text)).toOption
  let result ← (parser.verdict settings.startRule).toOption
  result.rejection

/-- A known parser on a source file reads under the path of the file. -/
theorem Assembly.Known.sourceName {assembly : Assembly} (known : assembly.Known) {tree : FileTree}
    {file : SourceFile} {parser : Parser} (prepared : assembly.parserOf tree file = .ok parser) :
    parser.sourceName = file.path := by
  obtain ⟨⟨encoding, bytes, text⟩, -, constructed⟩ := Log.exists_of_bind_eq_ok prepared
  have renamed := (assembly.construct_named known file.path text).symm.trans
    (Log.eq_ok_of_mapError constructed)
  cases nameless : assembly.construct (.ofText "" text) with
  | error error =>
    rw [nameless] at renamed
    cases renamed
  | ok original =>
    rw [nameless] at renamed
    cases renamed
    exact original.sourceName_named file.path

/-- The text of a source file is what its bytes stand for. -/
theorem SourceFile.decode_eq_ok_iff {file : SourceFile} {tree : FileTree} {encoding : Encoding}
    {bytes : ByteArray} {text : String} :
    file.decode tree = .ok (encoding, bytes, text) ↔
      ∃ content, file.content tree = .ok content ∧ content.data = bytes ∧
        Encoding.ofLabel? file.label = some encoding ∧ encoding.decode bytes = some text := by
  unfold decode
  constructor
  · intro decoded
    cases labelled : Encoding.ofLabel? file.label with
    | none =>
      simp only [labelled] at decoded
      cases decoded
    | some known =>
      simp only [labelled] at decoded
      obtain ⟨content, found, further⟩ := Log.exists_of_bind_eq_ok decoded
      cases read : known.decode content.data with
      | none =>
        simp only [read] at further
        cases further
      | some text =>
        simp only [read] at further
        cases further
        exact ⟨content, found, rfl, rfl, read⟩
  · rintro ⟨content, found, rfl, labelled, read⟩
    simp only [labelled, found, Bind.bind, Except.bind, read]

/-- A file that is not too large is held with its content. -/
theorem SourceFile.content_eq_ok {file : SourceFile} {tree : FileTree} {names : List String}
    {content : Content} (held : tree.resolve file.path = .ok (names, .file content))
    (small : content.size ≤ greatestSize) : file.content tree = .ok content := by
  rw [SourceFile.content, held]
  exact if_neg (Nat.not_lt.2 small)

/-- A file at the root is decoded under its name, which has neither slashes nor zeros. -/
theorem SourceFile.decode_name {entries : List (String × Node)} {name label text : String}
    {content : Content} {encoding : Encoding}
    (found : entries.lookup name = some (.file content)) (plain : name ∉ ["", ".", ".."])
    (short : name.utf8ByteSize ≤ FileTree.nameLimit)
    (clean : name.toList.contains '\x00' = false) (whole : Path.texts name = [name])
    (small : content.size ≤ greatestSize) (labelled : Encoding.ofLabel? label = some encoding)
    (read : encoding.decode content.data = some text) :
    SourceFile.decode ⟨name, label⟩ ⟨.directory entries, []⟩ =
      .ok (encoding, content.data, text) := by
  apply decode_eq_ok_iff.2
  have held := FileTree.resolve_name found plain short clean whole
  exact ⟨content, content_eq_ok held small, rfl, labelled, read⟩

/-- What becomes of a source says its path and follows from its bytes. -/
theorem Run.judge_eq_ok {run : Run} {assembly : Assembly} (known : assembly.Known) {path : String}
    {result : SourceResult} (judged : run.judge assembly path = .ok result) :
    ∃ content, SourceFile.content ⟨path, run.settings.encoding⟩ run.tree = .ok content ∧
      result = ⟨path, assembly.rejection run.settings content.data⟩ := by
  obtain ⟨parser, prepared, called⟩ := Log.exists_of_bind_eq_ok judged
  obtain ⟨⟨encoding, bytes, text⟩, decoded, constructed⟩ :=
    Log.exists_of_bind_eq_ok (Log.eq_ok_of_mapError prepared)
  obtain ⟨content, found, rfl, labelled, read⟩ :=
    SourceFile.decode_eq_ok_iff.1 (Log.eq_ok_of_mapError decoded)
  have renamed := (assembly.construct_named known path text).symm.trans
    (Log.eq_ok_of_mapError constructed)
  cases nameless : assembly.construct (.ofText "" text) with
  | error error =>
    rw [nameless] at renamed
    cases renamed
  | ok original =>
    rw [nameless] at renamed
    cases renamed
    have built := assembly.built_of_construct known nameless run.settings.startRule
    have judgement := Log.eq_ok_of_mapError called
    rw [original.verdict_named built path] at judgement
    cases decided : original.verdict run.settings.startRule with
    | error error =>
      rw [decided] at judgement
      cases judgement
    | ok verdict =>
      rw [decided] at judgement
      cases judgement
      have rejection : assembly.rejection run.settings content.data = verdict.rejection := by
        simp only [Assembly.rejection, labelled, Option.bind_eq_bind, Option.bind_some, read,
          nameless, decided, Except.toOption]
      exact ⟨content, found, by rw [rejection]⟩

end Conformance
