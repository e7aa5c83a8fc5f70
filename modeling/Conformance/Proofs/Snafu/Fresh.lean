import Conformance.Proofs.Grammar.FirstError
import Conformance.Proofs.Recognition.Abreast
import Conformance.Proofs.Snafu.Likeness

/-!
# Calls on a used parser

Calling a rule of Snafu leaves nothing behind in a parser but its place among the tokens and its
reports. The next call does what it would do on a new parser that starts there.
-/

namespace Conformance.Snafu

open Rule

/-- A parser of Snafu between two calls: no construct is open, and the tokens to come are the last
of some. -/
structure Rests (parser : Parser) (strategy : Strategy) (whole : List Token) : Prop where
  /-- The rules are those of Snafu. -/
  rules : parser.rule = rule
  /-- The tokens to come. -/
  offers : parser.state.Offers vocabulary 0 parser.upcoming
  /-- They are the last of some. -/
  last : parser.upcoming <:+ whole
  /-- The strategy is of a kind. -/
  strategy : parser.state.strategy.renewed = strategy.renewed

/-- A new parser rests. -/
theorem rests_parserUnder (strategy : Strategy) (source : TokenSource) :
    Rests (grammar.parserUnder strategy source) strategy (source.visible.map Token.bare) := by
  have offers : (TokenBuffer.ofSource source).Offers (source.visible.map Token.bare) :=
    ⟨_, TokenBuffer.shows_ofSource source, rfl⟩
  have upcoming : (grammar.parserUnder strategy source).upcoming = _ := Parser.upcoming_eq offers
  exact ⟨rfl, ⟨rfl, rfl, upcoming.symm ▸ offers⟩, upcoming ▸ List.suffix_refl _, rfl⟩

/-- A call on a resting parser and one on a new parser on the upcoming tokens meet. -/
theorem Rests.meet {parser : Parser} {strategy : Strategy} {whole : List Token}
    (rests : Rests parser strategy whole) (name label : String) :
    Meet vocabulary parser.state.strategy 0 parser.upcoming (fun _ => True)
      (parser.rule name parser.state)
      (rule name (grammar.parserUnder strategy.renewed (.script label parser.upcoming)).state) := by
  rw [rests.rules]
  apply Meet.of_agree fun _ => agree_rule name
  refine ⟨rests.offers, ⟨rfl, rfl, rests.offers.input.script label⟩, ?_⟩
  have abreast := parser.state.strategy.abreast_renewed
  rwa [rests.strategy] at abreast

/-- What a call leaves rests, if it is abreast of something with the last of the tokens to come. -/
theorem Rests.of_abreast {parser : Parser} {strategy : Strategy} {whole left : List Token}
    (rests : Rests parser strategy whole) {state two : Recognizer} (last : left <:+ parser.upcoming)
    (abreast : state.Abreast vocabulary parser.state.strategy 0 left two) :
    Rests { parser with state } strategy whole := by
  have upcoming : Parser.upcoming { parser with state } = left :=
    Parser.upcoming_eq abreast.first.input
  exact ⟨rests.rules, upcoming.symm ▸ abreast.first, upcoming.symm ▸ last.trans rests.last,
    abreast.strategy.renewed_eq.trans rests.strategy⟩

/-- Calls leave a resting parser. -/
theorem Rests.invoke {parser : Parser} {strategy : Strategy} {whole : List Token}
    (rests : Rests parser strategy whole) (name : String) :
    Rests (parser.invoke name).2 strategy whole := by
  have meet := rests.meet name ""
  rw [Grammar.invoke_eq]
  generalize parser.rule name parser.state = ran at meet ⊢
  generalize rule name _ = otherRan at meet
  cases meet with
  | returned last _ abreast => exact rests.of_abreast last abreast
  | failed last _ abreast => exact rests.of_abreast last abreast

/-- Any number of calls leave a resting parser. -/
theorem Rests.after {parser : Parser} {strategy : Strategy} {whole : List Token}
    (rests : Rests parser strategy whole) (calls : List String) :
    Rests (parser.after calls) strategy whole := by
  induction calls generalizing parser with
  | nil => exact rests
  | cons name calls ih => exact ih (rests.invoke name)

/-- After any calls of rules of Snafu on one parser, whatever they answered, no construct is open.
The next call answers what it answers on a new parser, with a strategy of the same kind, on the
visible tokens that are left. It leaves the same tokens as there, and adds the errors that are
reported there. Tokens are the same but for the numbers that their buffers gave them. -/
theorem invoke_after (source : TokenSource) (strategy : Strategy) (calls : List String)
    (name label : String) :
    let parser := (grammar.parserUnder strategy source).after calls
    let anew := grammar.parserUnder strategy.renewed (.script label parser.upcoming)
    parser.state.depth = 0 ∧
      parser.upcoming <:+ source.visible.map Token.bare ∧ anew.upcoming = parser.upcoming ∧
      (parser.invoke name).1.mapError RuleFailure.bare =
        (anew.invoke name).1.mapError RuleFailure.bare ∧
      (parser.invoke name).2.upcoming <:+ parser.upcoming ∧
      (parser.invoke name).2.upcoming = (anew.invoke name).2.upcoming ∧
      ∃ added, (parser.invoke name).2.errors = parser.errors ++ added ∧
        added.map RecognitionError.bare =
          (anew.invoke name).2.errors.map RecognitionError.bare := by
  intro parser anew
  have rests : Rests parser strategy (source.visible.map Token.bare) :=
    (rests_parserUnder strategy source).after calls
  have meet : Meet vocabulary parser.state.strategy 0 parser.upcoming (fun _ => True)
      (parser.rule name parser.state) (anew.rule name anew.state) := rests.meet name label
  refine ⟨rests.offers.depth, rests.last,
    Parser.upcoming_eq (rests.offers.input.script label), ?_⟩
  rw [Grammar.invoke_eq, Grammar.invoke_eq]
  generalize parser.rule name parser.state = ran at meet ⊢
  generalize anew.rule name anew.state = otherRan at meet ⊢
  cases meet with
  | @returned _ _ one two left last _ abreast =>
    have used : Parser.upcoming { parser with state := one } = left :=
      Parser.upcoming_eq abreast.first.input
    have new : Parser.upcoming { anew with state := two } = left :=
      Parser.upcoming_eq abreast.second.input
    exact ⟨rfl, used ▸ last, used.trans new.symm, abreast.strategy.exists_added⟩
  | @failed _ _ one two left last same abreast =>
    have used : Parser.upcoming { parser with state := one } = left :=
      Parser.upcoming_eq abreast.first.input
    have new : Parser.upcoming { anew with state := two } = left :=
      Parser.upcoming_eq abreast.second.input
    exact ⟨congrArg Except.error same, used ▸ last, used.trans new.symm,
      abreast.strategy.exists_added⟩

end Conformance.Snafu
