import Conformance.Proofs.Grammar.Built
import Mathlib.Control.Monad.Basic

/-!
# The first error of the languages

The rules of Snafu and of Word are in step: over the same source, a parser that stops at the first
error and one that repairs errors do the same until then. So the two tell the same about a source.
One is cancelled exactly when the other reports, by the error reported first, and the two return
or fail together when there is nothing to report.
-/

namespace Conformance

open Rule

/-- Every rule that Snafu offers by a name is in step. -/
theorem Snafu.inStep_rule (name : String) : (Snafu.rule name).InStep :=
  (Snafu.built_rule name).inStep

/-- Every rule that Word offers by a name is in step. -/
theorem Word.inStep_rule (name : String) : (Word.rule name).InStep :=
  (Word.built_rule name).inStep

namespace Grammar

/-! ## Parsers of a language -/

/-- A parser at the start of a source, under a strategy. -/
def parserUnder (grammar : Grammar) (strategy : Strategy) (source : TokenSource) : Parser :=
  (grammar.parser (TokenBuffer.ofSource source)).withStrategy strategy

/-- What a run answers. -/
def answer {α : Type} : EStateM.Result RuleFailure Recognizer α → Except RuleFailure α
  | .ok value _ => .ok value
  | .error failure _ => .error failure

/-- Calling a rule answers what its run answers and leaves the recognizer that the run leaves. -/
theorem invoke_eq (parser : Parser) (name : String) :
    parser.invoke name =
      (answer (parser.rule name parser.state),
        { parser with state := left (parser.rule name parser.state) }) := by
  unfold Parser.invoke
  split
  · rename_i ran
    rw [ran]
    rfl
  · rename_i ran
    rw [ran]
    rfl

/-- Up to the first error of a source, a parser of Snafu or of Word that stops there and one that
repairs errors agree. The first is cancelled exactly when the second reports, by the error reported
first. They return together, having consumed the same, and fail together, when the second has
nothing to report. -/
theorem strategies_agree (grammar : Grammar)
    (known : grammar = Snafu.grammar ∨ grammar = Word.grammar) (source : TokenSource)
    (name : String) :
    let strict := (grammar.parserUnder .failFast source).invoke name
    let lenient := (grammar.parserUnder .recover source).invoke name
    ((∃ cause, strict.1 = .error (.cancelled cause)) ↔ lenient.2.errors ≠ #[]) ∧
      (∀ cause, strict.1 = .error (.cancelled cause) → lenient.2.errors[0]? = some cause) ∧
      (strict.1 = .ok () ↔ lenient.1 = .ok () ∧ lenient.2.errors = #[]) ∧
      (strict.1 = .ok () → lenient.2.state.input = strict.2.state.input) ∧
      ∀ message, strict.1 = .error (.internal message) ↔
        lenient.1 = .error (.internal message) ∧ lenient.2.errors = #[] := by
  intro strict lenient
  have inStep : (grammar.rule name).InStep := by
    rcases known with rfl | rfl
    · exact Snafu.inStep_rule name
    · exact Word.inStep_rule name
  have follows := inStep.follows (grammar.parserUnder .failFast source).state rfl
  have strictRun : strict = (grammar.parserUnder .failFast source).invoke name := rfl
  have lenientRun : lenient = (grammar.parserUnder .recover source).invoke name := rfl
  rw [invoke_eq] at strictRun lenientRun
  change Follows ((grammar.parserUnder .failFast source).rule name _)
    ((grammar.parserUnder .recover source).rule name (grammar.parserUnder .recover source).state)
    at follows
  simp only [strictRun, lenientRun, Parser.errors]
  generalize (grammar.parserUnder .failFast source).rule name _ = strictResult at follows ⊢
  generalize (grammar.parserUnder .recover source).rule name _ = lenientResult at follows ⊢
  cases follows with
  | returned strict => simp [answer, left, Recognizer.lenient, Strategy.recover, Strategy.reported]
  | failed strict other =>
    simp [answer, left, Recognizer.lenient, Strategy.recover, Strategy.reported, other]
  | reported first =>
    rw [Recognizer.reported, List.head?_eq_getElem?, Array.getElem?_toList] at first
    have reported : (left lenientResult).strategy.reported ≠ #[] := by
      intro none
      simp [none] at first
    simpa [answer, reported] using first

/-- A name alone is no program of Snafu: the strict parser is cancelled there by the error that the
lenient one, which goes on and returns, reports first. -/
theorem strategies_agree_on_name :
    let source := TokenSource.script "names" [Token.new Snafu.nameKind "x" Position.start]
    let strict := (Snafu.grammar.parserUnder .failFast source).invoke "startRule"
    let lenient := (Snafu.grammar.parserUnder .recover source).invoke "startRule"
    (Snafu.grammar = Snafu.grammar ∨ Snafu.grammar = Word.grammar) ∧
      lenient.1 = .ok () ∧
      ∃ cause, strict.1 = .error (.cancelled cause) ∧ lenient.2.errors[0]? = some cause := by
  intro source strict lenient
  have agree := strategies_agree Snafu.grammar (.inl rfl) source "startRule"
  have returned : lenient.1 = .ok () := by decide +kernel
  have reports : lenient.2.errors ≠ #[] := by decide +kernel
  obtain ⟨cause, cancelled⟩ := agree.1.2 reports
  exact ⟨.inl rfl, returned, cause, cancelled, agree.2.1 cause cancelled⟩

end Grammar

end Conformance
