import Conformance.Proofs.Run.Answer
import Conformance.Proofs.Snafu.Checked
import Conformance.Proofs.Snafu.Ending
import Conformance.Proofs.Snafu.Verdict

/-!
# What can become of a text

Any rule of Snafu can be called on any text. Each of the four rules that are offered reads a text
of its symbol, up to a kind that such a text does not go on with, or it stops: it is cancelled at
the first token that cannot follow, or it fails where a factor is due inside as many others as may
be open. Because there was room in front of every token consumed, and a text is not the beginning
of a longer one there, a rule fails just when a factor is due too deep somewhere in its text.
-/

namespace Conformance.Snafu

open Recognizer Rule

/-! ## The rules offered -/

/-- The symbol whose texts the rule of a name reads. -/
def goal? : String → Option Symbol
  | "startRule" => some .program
  | "statement" => some .statement
  | "expr" => some .expression
  | "factor" => some .factor
  | _ => none

/-- A kind that no text of a symbol goes on with. -/
def Closes : Symbol → Kind → Prop
  | .program, kind => kind = .eof
  | .expression, kind => kind ∉ operatorKinds
  | .statement, _ | .factor, _ => True

variable {goal : Symbol} {whole before rest : List Token} {recognizer : Recognizer}

/-- A statement that stands alone is read, or the run stops. -/
theorem ends_lone_statement {steps : Nat}
    (progress : Progress .statement whole recognizer 0 [] whole)
    (enough : 2 * whole.length + 2 ≤ steps) :
    (statement steps).Ends recognizer
      (fun _ after => Reads .statement whole .statement 0 [] whole (Closes .statement) after)
      (Stops .statement whole) := by
  obtain ⟨token, left, rfl⟩ := progress.exists_cons
  by_cases starts : token.kind ∈ statementStart
  · simp only [List.length_cons] at enough
    exact ends_statement starts progress .start (Nat.zero_le _) (by omega)
  · refine progress.peek.bind ?_
    rintro _ after ⟨rfl, progress⟩
    have awaits : Awaits .statement .statement 0 [] := .start
    refine Ends.ite (fun assignment => ?_) fun _ => Ends.ite (fun output => ?_) fun _ => ?_
    · exact absurd (by simp [statementStart, assignment]) starts
    · exact absurd (by simp [statementStart, output]) starts
    · exact progress.noViableAlternative statementFollow (expectation_statement starts)
        awaits.roomy_statement

/-- A strict run of a rule that is offered reads a text of its symbol, or stops. -/
theorem ends_rule {name : String} (offered : goal? name = some goal)
    (progress : Progress goal whole recognizer 0 [] whole) :
    (rule name).Ends recognizer
      (fun _ after => Reads goal whole goal 0 [] whole (Closes goal) after)
      (Stops goal whole) := by
  have room : whole.length ≤ recognizer.outstanding := progress.stands.shown.length_le
  unfold goal? at offered
  split at offered
  · cases offered
    refine (ends_startRule progress).mono (fun _ after finished => ?_) fun _ _ stops => stops
    obtain ⟨read, token, ends, progress, nesting, derives⟩ := finished
    have kind : token.kind = .eof := by simpa [Token.isEof] using ends
    exact ⟨nesting, read, token, [], progress.split, progress, derives, kind⟩
  · cases offered
    exact ends_bound_bind (ends_lone_statement progress (by omega))
  · cases offered
    refine ends_bound_bind (((expressionEnds _).1 0 whole [] whole recognizer 0 progress .start
      (Nat.zero_le _) (by omega)).mono (fun _ after reads => ?_) fun _ _ stops => stops)
    obtain ⟨nesting, read, token, left, split, progress, derives, ended⟩ := reads
    exact ⟨nesting, read, token, left, split, progress, derives, ended.not_mem_operatorKinds⟩
  · cases offered
    exact ends_bound_bind ((expressionEnds _).2.2 whole [] whole recognizer 0 progress .start
      (Nat.zero_le _) (by omega))
  · cases offered

/-! ## Factors that nest too deep -/

/-- Somewhere among tokens a factor is due inside as many others as may be open. -/
def Overfull (goal : Symbol) (tokens : List Token) : Prop :=
  ∃ before token rest, tokens = before ++ token :: rest ∧
    Awaits goal .factor maxDepth (before.map Token.kind)

/-- So many signs nest the factor behind them so much deeper. -/
theorem Awaits.signs {opened : Nat} {before : List Kind}
    (awaits : Awaits goal .factor opened before) (count : Nat) :
    Awaits goal .factor (opened + count) (before ++ List.replicate count minusKind) := by
  induction count with
  | zero => simpa using awaits
  | succ count ih =>
    rw [List.replicate_succ', ← List.append_assoc]
    exact ih.negation

/-- As many signs as factors may be open are too many before a factor. -/
theorem overfull_of_signs {signs : List Token}
    (minus : signs.map Token.kind = List.replicate maxDepth minusKind) (token : Token)
    (rest : List Token) : Overfull .factor (signs ++ token :: rest) := by
  have deep : Awaits .factor .factor (0 + maxDepth) ([] ++ List.replicate maxDepth minusKind) :=
    Awaits.start.signs maxDepth
  rw [Nat.zero_add, List.nil_append, ← minus] at deep
  exact ⟨signs, token, rest, rfl, deep⟩

/-- Where each of some tokens could be passed, a factor that is due too deep lies behind them. -/
theorem Overfull.behind {read left : List Token} {token : Token}
    (overfull : Overfull goal (read ++ token :: left))
    (passable : Passable goal (read.map Token.kind)) :
    ∃ beyond next rest, token :: left = beyond ++ next :: rest ∧
      Awaits goal .factor maxDepth (read.map Token.kind ++ beyond.map Token.kind) := by
  obtain ⟨before, next, rest, split, awaits⟩ := overfull
  rcases List.append_eq_append_iff.1 split with ⟨beyond, rfl, onward⟩ | ⟨passed, rfl, onward⟩
  · exact ⟨beyond, next, rest, onward, by simpa using awaits⟩
  · cases passed with
    | nil => exact ⟨[], token, left, rfl, by simpa using awaits⟩
    | cons first more =>
      have room : Roomy goal (before.map Token.kind) :=
        passable _ (by simp) fun same => by simpa using congrArg List.length same
      exact absurd (room maxDepth awaits) (Nat.lt_irrefl _)

/-- Behind a text a factor is due only if the text is a program, which goes on, or an expression,
and then an operator stands between. -/
theorem Derives.goes_on {nesting opened : Nat} {read beyond : List Kind}
    (derives : Derives goal nesting read) (awaits : Awaits goal .factor opened (read ++ beyond)) :
    (goal = .program ∧ beyond ≠ []) ∨
      (goal = .expression ∧ ∃ operator more, beyond = operator :: more ∧
        operator ∈ operatorKinds) := by
  have number : Derives .factor 1 [numberKind] := .operand (by decide)
  obtain ⟨rest, further, longer⟩ := awaits.viable number
  rw [List.append_assoc, List.append_assoc] at longer
  cases goal with
  | program =>
    refine .inl ⟨rfl, ?_⟩
    rintro rfl
    have reached := Phase.reach_of_derivable ⟨nesting, derives⟩
    exact Phase.not_viable_of_advance reached rfl ⟨rest, further, by simpa using longer⟩
  | statement => simpa using derives.statement_append longer
  | expression =>
    refine .inr ⟨rfl, ?_⟩
    cases beyond with
    | nil => exact absurd (derives.operator_of_append longer) (by decide)
    | cons kind more => exact ⟨kind, more, rfl, derives.operator_of_append longer⟩
  | factor => simpa using derives.factor_append rfl longer

/-- Where a rule has read a text up to its end, no factor was due too deep. -/
theorem Reads.not_overfull {after : Recognizer}
    (reads : Reads goal whole goal 0 [] whole (Closes goal) after) : ¬ Overfull goal whole := by
  obtain ⟨nesting, read, token, left, rfl, progress, derives, closes⟩ := reads
  intro overfull
  obtain ⟨beyond, next, rest, onward, awaits⟩ := overfull.behind progress.passable
  rcases derives.goes_on awaits with ⟨rfl, further⟩ | ⟨rfl, operator, more, front, binary⟩
  · have kind : token.kind = .eof := closes
    have ends : token.isEof = true := by simp [Token.isEof, kind]
    obtain rfl := progress.stands.shown.terminated_tokens.eq_singleton ends
    cases beyond with
    | nil => exact further rfl
    | cons first beyond => simp at onward
  · cases beyond with
    | nil => cases front
    | cons first beyond =>
      obtain ⟨rfl, -⟩ := List.cons.inj onward
      obtain ⟨rfl, -⟩ := List.cons.inj front
      exact closes binary

/-- Where a rule was cancelled, no factor was due too deep. -/
theorem not_overfull_of_rejected {after : Recognizer} {depth : Nat} {before left : List Token}
    {token : Token} {expected : List Kind}
    (progress : Progress goal whole after depth before (token :: left))
    (expectation : Expectation goal (before.map Token.kind) expected token.kind)
    (room : Roomy goal (before.map Token.kind)) : ¬ Overfull goal whole := by
  rw [progress.split]
  intro overfull
  obtain ⟨beyond, next, rest, onward, awaits⟩ := overfull.behind progress.passable
  cases beyond with
  | nil => exact absurd (room maxDepth (by simpa using awaits)) (Nat.lt_irrefl _)
  | cons first beyond =>
    obtain ⟨rfl, more⟩ := List.cons.inj onward
    refine expectation.refused ?_
    rw [CanFollow, if_neg]
    · have viable := awaits.viable_before
      rw [List.map_cons, List.append_cons] at viable
      exact viable.of_append
    · intro kind
      have ends : token.isEof = true := by simp [Token.isEof, kind]
      have last := progress.stands.shown.terminated_tokens.eq_singleton ends
      simp [more] at last

/-! ## Testing a text -/

/-- A name has a goal just when it is that of a rule offered. -/
theorem goal?_eq_none_iff {name : String} :
    goal? name = none ↔ name ∉ ["startRule", "statement", "expr", "factor"] := by
  unfold goal?
  split
  · simp
  · simp
  · simp
  · simp
  · simp_all

/-- The rule table admits the rules offered, and no others. -/
theorem admit_eq (name : String) :
    RuleEntry.admit table name =
      if goal? name = none then .error (.noSuchRule name "no such rule") else .ok () := by
  unfold goal?
  split
  · rfl
  · rfl
  · rfl
  · rfl
  · rename_i program statement expression factor
    have none : table.filter (fun entry => entry.name == name) = [] := by
      simp only [table, List.filter_cons]
      simp [Ne.symm program, Ne.symm statement, Ne.symm expression, Ne.symm factor]
    unfold RuleEntry.admit
    simp [none]

/-- A strict call on a new parser of a rule that is offered reads a text of its symbol, or stops. -/
theorem invoke_offered (source : TokenSource) {name : String} (offered : goal? name = some goal) :
    let run := (grammar.parserUnder .failFast source).invoke name
    (run.1 = .ok () ∧ Reads goal source.visible goal 0 [] source.visible (Closes goal)
        run.2.state) ∨
      ∃ failure, run.1 = .error failure ∧ Stops goal source.visible failure run.2.state := by
  intro run
  exact (grammar.parserUnder .failFast source).invoke_of_ends name
    (ends_rule offered (Progress.start goal source))

/-- What becomes of a source when a rule that is offered is called: it is accepted or rejected, or a
factor in it is due too deep. -/
theorem verdict_offered (source : TokenSource) {name : String} (offered : goal? name = some goal) :
    let parser := grammar.parserUnder .failFast source
    ((parser.verdict name = .ok (.accepted source.name) ∨
        ∃ cause, parser.verdict name = .ok (.rejected source.name cause)) ∧
      ¬ Overfull goal source.visible) ∨
      ∃ line, parser.verdict name = .error (.unexpectedFailure name (tooDeep line).message) ∧
        Overfull goal source.visible := by
  intro parser
  have admitted : RuleEntry.admit parser.table name = .ok () := by
    change RuleEntry.admit table name = .ok ()
    simp [admit_eq, offered]
  unfold Parser.verdict
  rw [admitted]
  rcases invoke_offered source offered with ⟨returned, reads⟩ | ⟨failure, failed, stops⟩
  · change (parser.invoke name).1 = .ok () at returned
    rw [returned]
    exact .inl ⟨.inl rfl, reads.not_overfull⟩
  · change (parser.invoke name).1 = .error failure at failed
    rw [failed]
    cases stops with
    | @rejected cause after depth before rest progress expectation room =>
      exact .inl ⟨.inr ⟨cause, rfl⟩, not_overfull_of_rejected progress expectation room⟩
    | @full token after depth before rest progress awaits =>
      exact .inr ⟨token.position.line, rfl, before, token, rest, progress.split, awaits⟩

/-- A checked parser of Snafu that stops at the first error tests a source as one that is not
checked. -/
theorem test_checked (source : TokenSource) (name : String) :
    let parser := grammar.parserUnder .failFast source
    Parser.test { parser with rule := Checked.rule } name = parser.test name := by
  intro parser
  have stands : parser.state.Stands .failFast 0 source.visible :=
    (Progress.start .program source).stands
  have same : Checked.rule name parser.state = parser.rule name parser.state :=
    (confirms_rule name _ _ _ stands).1
  have answer : (Parser.invoke { parser with rule := Checked.rule } name).1 =
      (parser.invoke name).1 := by
    rw [Grammar.invoke_eq, Grammar.invoke_eq]
    exact congrArg Grammar.answer same
  unfold Parser.test Parser.call
  rw [answer]
  rfl

/-- Testing a text with a rule of Snafu, stopping at the first error, has one of four outcomes,
whatever the text, the name of the rule and the journal. The text is accepted or rejected, there is
no rule of the name, or a factor was due too deep. There is a rule for just four names, and a
factor was due too deep just when the tokens of the text, as far as they begin a text of the rule,
come to a factor inside as many others as may be open. No step on the way is out of range: with
checked steps the test does the same. -/
theorem test_outcome (path text name : String) :
    let source := grammar.lexer (.ofText path text)
    let parser := grammar.parserUnder .failFast source
    let checked : Parser := { parser with rule := Checked.rule }
    checked.test name = parser.test name ∧
      ∃ outcome, (parser.test name).Yields outcome ∧
        (outcome = .ok (.accepted path) ∨ (∃ cause, outcome = .ok (.rejected path cause)) ∨
          outcome = .error (.noSuchRule name "no such rule") ∨
          ∃ line, outcome = .error (.unexpectedFailure name (tooDeep line).message)) ∧
        (outcome = .error (.noSuchRule name "no such rule") ↔
          name ∉ ["startRule", "statement", "expr", "factor"]) ∧
        ((∃ line, outcome = .error (.unexpectedFailure name (tooDeep line).message)) ↔
          ∃ goal, goal? name = some goal ∧ Overfull goal source.visible) := by
  intro source parser checked
  refine ⟨test_checked source name, parser.verdict name, parser.yields_test name, ?_⟩
  rw [← goal?_eq_none_iff]
  cases offered : goal? name with
  | none =>
    have refused : parser.verdict name = .error (.noSuchRule name "no such rule") := by
      have admitted : RuleEntry.admit parser.table name = _ := admit_eq name
      simp [Parser.verdict, admitted, offered]
    simp [refused]
  | some goal =>
    rcases verdict_offered source offered with ⟨tested, shallow⟩ | ⟨line, failed, deep⟩
    · rcases tested with accepted | ⟨cause, rejected⟩
      · change parser.verdict name = .ok (.accepted path) at accepted
        simp [accepted, shallow]
      · change parser.verdict name = .ok (.rejected path cause) at rejected
        simp [rejected, shallow]
    · exact ⟨.inr (.inr (.inr ⟨line, failed⟩)), by simp [parser, failed],
        fun _ => ⟨goal, rfl, deep⟩, fun _ => ⟨line, failed⟩⟩

end Conformance.Snafu
