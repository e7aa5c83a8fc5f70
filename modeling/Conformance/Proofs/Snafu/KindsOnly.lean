import Conformance.Proofs.Grammar.FirstError
import Conformance.Proofs.Recognition.Abreast
import Conformance.Proofs.Run.Answer
import Conformance.Proofs.Snafu.Likeness

/-!
# Kinds alone decide

What becomes of a source depends on the kinds of its visible tokens only. Two sources that show the
same kinds may differ in the texts, the positions and the hidden tokens, and so in the raw numbers
of their tokens. Every rule of Snafu ends alike on both, behind as many visible tokens, and reports
alike errors at tokens that stand at the same number among the visible ones.
-/

namespace Conformance

open Log.Attempt

namespace Likeness

variable {likeness : Likeness}

/-- Two answers of rules are alike: both rules have returned, or both have failed for alike
reasons. -/
inductive Answers (likeness : Likeness) : Except RuleFailure Unit → Except RuleFailure Unit → Prop
  /-- Both have returned. -/
  | returned : Answers likeness (.ok ()) (.ok ())
  /-- Both have failed. -/
  | failed {failure other : RuleFailure} (same : likeness.Failures failure other) :
    Answers likeness (.error failure) (.error other)

/-- Runs that meet answer alike, and leave recognizers that are abreast with the last of the
pairs. -/
theorem Meet.answers {names : List String} {former : Strategy} {depth : Nat}
    {pairs : List (Token × Token)} {reach : List (Token × Token) → Prop}
    {ran other : EStateM.Result RuleFailure Recognizer Unit}
    (meet : likeness.Meet names former depth pairs reach ran other) :
    likeness.Answers (Grammar.answer ran) (Grammar.answer other) ∧
      ∃ count, likeness.Abreast names former depth (pairs.drop count) (Rule.left ran)
        (Rule.left other) := by
  cases meet with
  | returned last _ abreast =>
    rw [List.suffix_iff_eq_drop.1 last] at abreast
    exact ⟨.returned, _, abreast⟩
  | failed last same abreast =>
    rw [List.suffix_iff_eq_drop.1 last] at abreast
    exact ⟨.failed same, _, abreast⟩

/-- New strategies of one kind have reported alike errors. -/
theorem strategies_renewed (strategy : Strategy) :
    likeness.Strategies strategy.renewed strategy.renewed strategy.renewed := by
  cases strategy with
  | failFast => exact .failFast
  | recovering reported =>
    have none : likeness.Strategies .recover (.recovering (#[] ++ #[])) .recover :=
      .recovering .nil
    rwa [Array.append_empty] at none

/-- What has been reported since two strategies were new is alike. -/
theorem Strategies.forall₂_reported {strategy one two : Strategy}
    (strategies : likeness.Strategies strategy.renewed one two) :
    List.Forall₂ likeness.Errors one.reported.toList two.reported.toList := by
  cases strategy with
  | failFast =>
    cases strategies
    exact .nil
  | recovering reported =>
    generalize former : Strategy.renewed (.recovering reported) = renewed at strategies
    cases strategies with
    | failFast => cases former
    | @recovering earlier added others same =>
      have nothing : #[] = earlier := Strategy.recovering.inj former
      rw [← nothing, Strategy.reported, Array.empty_append]
      exact same

/-- Tokens of two sources are alike when they are of one kind and stand at the same number among the
visible tokens. -/
def ofSources (one other : TokenSource) : Likeness where
  alike token second := token.kind = second.kind ∧
    ∃ number : Nat, one.visible[number]? = some token ∧ other.visible[number]? = some second
  kind_eq := And.left

variable {one other : TokenSource}

/-- The pairs of visible tokens of sources that show the same kinds hold all of them. -/
theorem map_zip_visible (same : one.visible.map Token.kind = other.visible.map Token.kind) :
    (one.visible.zip other.visible).map Prod.fst = one.visible ∧
      (one.visible.zip other.visible).map Prod.snd = other.visible := by
  have size : one.visible.length = other.visible.length := by
    simpa using congrArg List.length same
  exact ⟨List.map_fst_zip size.le, List.map_snd_zip size.ge⟩

/-- Fresh buffers on sources that show the same kinds show alike tokens. -/
theorem shows_ofSources (same : one.visible.map Token.kind = other.visible.map Token.kind) :
    (ofSources one other).Shows (one.visible.zip other.visible) (.ofSource one)
      (.ofSource other) := by
  obtain ⟨firsts, seconds⟩ := map_zip_visible same
  refine ⟨?_, ?_, fun pair found => ?_⟩
  · rw [firsts]
    exact TokenBuffer.shows_ofSource one
  · rw [seconds]
    exact TokenBuffer.shows_ofSource other
  · obtain ⟨number, here⟩ := List.mem_iff_getElem?.1 found
    obtain ⟨first, second⟩ := List.getElem?_zip_eq_some.1 here
    have kinds := congrArg (fun kinds : List Kind => kinds[number]?) same
    simp only [List.getElem?_map, first, second, Option.map_some] at kinds
    exact ⟨Option.some.inj kinds, number, first, second⟩

end Likeness

namespace Snafu

variable {one other : TokenSource}

/-- Calls of a rule on new parsers meet when the sources show the same kinds. -/
theorem meet_of_kinds (same : one.visible.map Token.kind = other.visible.map Token.kind)
    (strategy : Strategy) (name : String) :
    (Likeness.ofSources one other).Meet vocabulary strategy.renewed 0
      (one.visible.zip other.visible) (fun _ => True)
      (rule name (grammar.parserUnder strategy.renewed one).state)
      (rule name (grammar.parserUnder strategy.renewed other).state) :=
  agree_rule name _ _ ⟨rfl, rfl, rfl, rfl, Likeness.shows_ofSources same,
    Likeness.strategies_renewed strategy⟩

/-- What a parser of Snafu leaves is the end of its source, if its recognizer shows that. -/
theorem upcoming_of_shows {source : TokenSource} {strategy : Strategy} {state : Recognizer}
    {count : Nat} (shown : state.input.Shows (source.visible.drop count)) :
    Parser.upcoming { grammar.parserUnder strategy source with state } =
      (grammar.parserUnder strategy source).upcoming.drop count := by
  have upcoming : (grammar.parserUnder strategy source).upcoming =
      source.visible.map Token.bare :=
    Parser.upcoming_eq ⟨_, TokenBuffer.shows_ofSource source, rfl⟩
  rw [upcoming, ← List.map_drop]
  exact Parser.upcoming_eq ⟨_, shown, rfl⟩

/-- Two verdicts are of one class when both accept, both reject, or both are errors of one code. -/
def verdictClass (verdict : Except InvocationError SourceResult) : Except Log.Code Bool :=
  (verdict.map SourceResult.hasFailed).mapError InvocationError.code

/-- Where the same rule answers alike, the verdicts are of one class. -/
theorem verdictClass_eq {likeness : Likeness} {parser second : Parser} {name : String}
    (tables : parser.table = second.table)
    (answers : likeness.Answers (parser.invoke name).1 (second.invoke name).1) :
    verdictClass (parser.verdict name) = verdictClass (second.verdict name) := by
  unfold Parser.verdict
  rw [tables]
  generalize (parser.invoke name).1 = answer at answers ⊢
  generalize (second.invoke name).1 = otherAnswer at answers ⊢
  cases RuleEntry.admit second.table name with
  | error error => rfl
  | ok admitted =>
    cases answers with
    | returned => rfl
    | failed same =>
      cases same with
      | cancelled _ => rfl
      | internal _ => rfl

/-- Two sources that show the same kinds of visible tokens up to the end are treated alike, whatever
their texts, positions and hidden tokens. A rule of Snafu called on new parsers with a strategy of
one kind returns on both, or is cancelled on both, or fails on both for a reason of its own. It has
consumed as many visible tokens on both. The errors that are reported, and those that cancel, agree
pair by pair in cause and in the kinds expected, and the tokens found stand at the same number among
the visible ones. So tests of both sources come to verdicts of one class. -/
theorem invoke_of_kinds (same : one.visible.map Token.kind = other.visible.map Token.kind)
    (strategy : Strategy) (name : String) :
    let parser := grammar.parserUnder strategy.renewed one
    let second := grammar.parserUnder strategy.renewed other
    (Likeness.ofSources one other).Answers (parser.invoke name).1 (second.invoke name).1 ∧
      (∃ count, (parser.invoke name).2.upcoming = parser.upcoming.drop count ∧
        (second.invoke name).2.upcoming = second.upcoming.drop count) ∧
      List.Forall₂ (Likeness.ofSources one other).Errors (parser.invoke name).2.errors.toList
        (second.invoke name).2.errors.toList ∧
      ∃ outcome otherOutcome, (parser.test name).Yields outcome ∧
        (second.test name).Yields otherOutcome ∧
        verdictClass outcome = verdictClass otherOutcome := by
  intro parser second
  have meet : (Likeness.ofSources one other).Meet vocabulary strategy.renewed 0
      (one.visible.zip other.visible) (fun _ => True) (parser.rule name parser.state)
      (second.rule name second.state) := meet_of_kinds same strategy name
  obtain ⟨answers, count, abreast⟩ := meet.answers
  obtain ⟨firsts, seconds⟩ := Likeness.map_zip_visible same
  have called := Grammar.invoke_eq parser name
  have otherCalled := Grammar.invoke_eq second name
  have alike : (Likeness.ofSources one other).Answers (parser.invoke name).1
      (second.invoke name).1 := by
    rw [called, otherCalled]
    exact answers
  refine ⟨alike, ⟨count, ?_, ?_⟩, ?_, _, _, parser.yields_test name, second.yields_test name,
    verdictClass_eq rfl alike⟩
  · have shown := abreast.shown.first
    rw [List.map_drop, firsts] at shown
    rw [called]
    exact upcoming_of_shows shown
  · have shown := abreast.shown.second
    rw [List.map_drop, seconds] at shown
    rw [otherCalled]
    exact upcoming_of_shows shown
  · rw [called, otherCalled]
    exact abreast.strategy.forall₂_reported

/-- An assignment without a value. -/
def valueless : TokenSource :=
  grammar.lexer (.ofText "one" "let x = ;")

/-- Such an assignment of another name, with comments and over several lines. -/
def valuelessApart : TokenSource :=
  grammar.lexer (.ofText "other" "// first\nlet\n\tother=; // last")

/-- On an assignment without a value the same error is reported at the same visible token, however
the assignment is laid out. -/
theorem invoke_of_kinds_valueless :
    let reported := ((grammar.parserUnder .recover valueless).invoke "startRule").2.errors.toList
    let again := ((grammar.parserUnder .recover valuelessApart).invoke "startRule").2.errors.toList
    valueless.visible.map Token.kind = valuelessApart.visible.map Token.kind ∧
      ∃ error second, reported = [error] ∧ again = [second] ∧
        (Likeness.ofSources valueless valuelessApart).Errors error second := by
  intro reported again
  have same : valueless.visible.map Token.kind = valuelessApart.visible.map Token.kind := by
    decide +kernel
  have alone : reported.length = 1 := by decide +kernel
  obtain ⟨error, here⟩ := List.length_eq_one_iff.1 alone
  have alike : List.Forall₂ (Likeness.ofSources valueless valuelessApart).Errors reported again :=
    (invoke_of_kinds same .recover "startRule").2.2.1
  rw [here] at alike
  generalize again = others at alike ⊢
  cases alike with
  | cons first none =>
    cases none
    exact ⟨same, error, _, here, rfl, first⟩

end Snafu

end Conformance
