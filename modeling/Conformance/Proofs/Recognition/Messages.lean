import Conformance.Proofs.Grammar.FirstError
import Conformance.Proofs.Recognition.Described

/-!
# Messages on one line

The message of a recognition error quotes the offending token, whatever its text is, and names the
kinds that were expected. A token is quoted with its line ends and tabs by their escapes, and a
language has display names without any. So the message of every error at which a language rejects a
source is on one line.
-/

namespace Conformance

/-! ## Texts on one line -/

namespace Text

/-- A text without line ends and tabs. -/
def Plain (text : String) : Prop :=
  ∀ c ∈ text.toList, c ≠ '\n' ∧ c ≠ '\r' ∧ c ≠ '\t'

instance (text : String) : Decidable (Plain text) :=
  List.decidableBAll (fun c => c ≠ '\n' ∧ c ≠ '\r' ∧ c ≠ '\t') text.toList

/-- Two plain texts, one behind the other, are plain. -/
theorem Plain.append {text other : String} (first : Plain text) (second : Plain other) :
    Plain (text ++ other) := by
  intro c member
  rw [String.toList_append, List.mem_append] at member
  rcases member with front | behind
  · exact first c front
  · exact second c behind

/-- Plain texts are plain with a plain one between them. -/
theorem plain_intercalate {between : String} {texts : List String} (separator : Plain between)
    (plain : ∀ text ∈ texts, Plain text) : Plain (between.intercalate texts) := by
  induction texts with
  | nil =>
    rw [String.intercalate_nil]
    decide
  | cons text texts ih =>
    have first : Plain text := plain text List.mem_cons_self
    have others := ih fun other listed => plain other (List.mem_cons_of_mem text listed)
    by_cases alone : texts = []
    · rw [alone, String.intercalate_singleton]
      exact first
    · rw [String.intercalate_cons_of_ne_nil alone]
      exact (first.append separator).append others

/-- A number is plain. -/
theorem plain_toString (number : Nat) : Plain (toString number) := by
  intro c member
  rw [Nat.toString_eq_ofList_toDigits, String.toList_ofList] at member
  have digit : c.isDigit = true := Nat.isDigit_of_mem_toDigits (by decide) (by decide) member
  refine ⟨?_, ?_, ?_⟩ <;>
  · rintro rfl
    cases digit

/-- A kind is plain. -/
theorem plain_toString_kind (kind : Kind) : Plain (toString kind) := by
  cases kind with
  | ofNat number => exact plain_toString number
  | negSucc number =>
    have sign : Plain "-" := by decide
    exact sign.append (plain_toString (number + 1))

end Text

open Text

/-- A character of a token is shown without line ends and tabs. -/
theorem Token.plain_showChar (c : Char) : Plain (String.ofList (showChar c)) := by
  unfold showChar
  split
  · decide
  · decide
  · decide
  · intro d member
    rw [String.toList_ofList, List.mem_singleton] at member
    subst member
    exact ⟨‹_›, ‹_›, ‹_›⟩

/-- A token is shown on one line, whatever its text is. -/
theorem Token.plain_display (token : Token) : Plain token.display := by
  unfold display
  split_ifs
  · decide
  · have quote : Plain "'" := by decide
    refine (quote.append ?_).append quote
    intro c member
    rw [String.toList_ofList, List.mem_flatMap] at member
    obtain ⟨origin, -, shown⟩ := member
    apply plain_showChar origin c
    rwa [String.toList_ofList]

namespace Recognizer

variable {vocabulary : List String}

/-- A kind is named on one line where the display names are plain. -/
theorem plain_displayName (plain : ∀ name ∈ vocabulary, Plain name) (kind : Kind) :
    Plain (displayName vocabulary kind) := by
  have bracketed (kind : Kind) : Plain ("<" ++ toString kind ++ ">") := by
    have opening : Plain "<" := by decide
    have closing : Plain ">" := by decide
    exact (opening.append (plain_toString_kind kind)).append closing
  unfold displayName
  split_ifs
  · decide
  · cases kind with
    | ofNat number =>
      cases listed : vocabulary[number]? with
      | none =>
        simp only [listed]
        exact bracketed number
      | some name =>
        simp only [listed]
        exact plain name (List.mem_of_getElem? listed)
    | negSucc number => exact bracketed (.negSucc number)

/-- An expectation is described on one line where the display names are plain. -/
theorem plain_describe (plain : ∀ name ∈ vocabulary, Plain name) (kinds : List Kind) :
    Plain (describe vocabulary kinds) := by
  have set : Plain ("\x7b" ++ ", ".intercalate (kinds.map (displayName vocabulary)) ++ "\x7d") := by
    have opening : Plain "\x7b" := by decide
    have closing : Plain "\x7d" := by decide
    have separator : Plain ", " := by decide
    refine (opening.append (plain_intercalate separator ?_)).append closing
    intro name listed
    obtain ⟨kind, -, rfl⟩ := List.mem_map.1 listed
    exact plain_displayName plain kind
  unfold describe
  split
  · exact plain_displayName plain _
  · exact set

end Recognizer

/-! ## Errors of a language -/

/-- A described error has its message on one line where the display names are plain. -/
theorem RecognitionError.Described.plain_message {vocabulary : List String}
    {error : RecognitionError} (described : error.Described vocabulary)
    (plain : ∀ name ∈ vocabulary, Plain name) : Plain error.message := by
  have line : Plain "line " := by decide
  have colon : Plain ":" := by decide
  have place := ((line.append (plain_toString error.offending.position.line)).append colon).append
    (plain_toString error.offending.position.column)
  have offending := error.offending.plain_display
  unfold message
  rcases described with cause | cause
  · have undecided : Plain " no viable alternative at input " := by decide
    rw [cause]
    exact (place.append undecided).append offending
  · have mismatched : Plain " mismatched input " := by decide
    have expecting : Plain " expecting " := by decide
    have description := Recognizer.plain_describe plain error.expected
    rw [cause]
    exact (((place.append mismatched).append offending).append expecting).append description

/-- An error by which a parser of Snafu or of Word rejects what it reads, under a rule of any
name. -/
def RecognitionError.Raised (cause : RecognitionError) : Prop :=
  ∃ grammar parser name, (grammar = Snafu.grammar ∨ grammar = Word.grammar) ∧
    Grammar.Offers grammar parser ∧ (parser.invoke name).1 = .error (.cancelled cause)

namespace Grammar.Offers

variable {grammar : Grammar} {parser : Parser}

/-- A parser at the start of a source offers the rules of its language, under every strategy. -/
theorem parserUnder (grammar : Grammar) (strategy : Strategy) (source : TokenSource) :
    grammar.Offers (grammar.parserUnder strategy source) :=
  ⟨rfl, rfl, rfl⟩

/-- Calling a rule keeps the language of a parser, and it is cancelled by described errors only. -/
theorem invoke (offers : grammar.Offers parser)
    (known : grammar = Snafu.grammar ∨ grammar = Word.grammar) (name : String) :
    grammar.Offers (parser.invoke name).2 ∧
      ∀ cause, (parser.invoke name).1 = .error (.cancelled cause) →
        cause.Described grammar.vocabulary := by
  have ends := (offers.built known name).describes parser.state
  unfold Rule.Ends at ends
  rw [invoke_eq, ← offers.vocabulary]
  generalize parser.rule name parser.state = result at ends
  cases result with
  | ok value after =>
    refine ⟨⟨offers.table, offers.rule, ends.trans offers.vocabulary⟩, fun cause cancelled => ?_⟩
    cases cancelled
  | error failure after =>
    refine ⟨⟨offers.table, offers.rule, ends.1.trans offers.vocabulary⟩, fun cause same => ?_⟩
    exact ends.2 cause (Except.error.inj same)

end Grammar.Offers

/-- The error by which a language rejects a source has its message on one line. -/
theorem RecognitionError.Raised.plain {cause : RecognitionError} (raised : cause.Raised) :
    Plain cause.message := by
  obtain ⟨grammar, parser, name, known, offers, cancelled⟩ := raised
  have names : ∀ name ∈ grammar.vocabulary, Plain name := by
    rcases known with rfl | rfl
    · decide
    · decide
  exact ((offers.invoke known name).2 cause cancelled).plain_message names

end Conformance
