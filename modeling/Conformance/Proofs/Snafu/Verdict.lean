import Conformance.Proofs.Grammar.FirstError
import Conformance.Proofs.Recognition.Standing
import Conformance.Proofs.Snafu.Expectation
import Conformance.Proofs.Snafu.Room

/-!
# The verdict of the start rule

A run of the start rule that stops at the first error decides the syntax of Snafu. While a rule is
running on the way through a text of some goal, the kinds read so far are a point of such a text at
which the rule's symbol is due. The rule then either reads a text of its symbol, or stops at the
first token that cannot follow, with a right expectation, or stops where one factor too many would
be opened. The rules are followed for any goal; the verdict is that of the goal of a program.
-/

namespace Conformance.Snafu

open Recognizer Rule

/-! ## Strict runs -/

/-- A strict run over the tokens of `whole`, on the way through a text of `goal`, has consumed those
in `before`, and those in `rest` are to come. -/
structure Progress (goal : Symbol) (whole : List Token) (recognizer : Recognizer) (depth : Nat)
    (before rest : List Token) : Prop where
  /-- The recognizer stops at the first error and stands before the rest. -/
  stands : recognizer.Stands .failFast depth rest
  /-- Nothing was lost. -/
  split : whole = before ++ rest
  /-- There was room in front of every token consumed. -/
  passable : Passable goal (before.map Token.kind)

/-- How a strict run over the tokens of `whole`, on the way through a text of `goal`, stops without
returning. -/
inductive Stops (goal : Symbol) (whole : List Token) : RuleFailure → Recognizer → Prop
  /-- It was cancelled at the next token, with a right expectation. -/
  | rejected {cause : RecognitionError} {after : Recognizer} {depth : Nat}
    {before rest : List Token}
    (progress : Progress goal whole after depth before (cause.offending :: rest))
    (expectation : Expectation goal (before.map Token.kind) cause.expected cause.offending.kind)
    (room : Roomy goal (before.map Token.kind)) :
    Stops goal whole (.cancelled cause) after
  /-- A factor was due inside as many others as may be open. -/
  | full {token : Token} {after : Recognizer} {depth : Nat} {before rest : List Token}
    (progress : Progress goal whole after depth before (token :: rest))
    (awaits : Awaits goal .factor maxDepth (before.map Token.kind)) :
    Stops goal whole (tooDeep token.position.line) after

/-- A strict run has read a text of a symbol, and the kind that comes next has a property. -/
def Reads (goal : Symbol) (whole : List Token) (symbol : Symbol) (depth : Nat)
    (before rest : List Token) (next : Kind → Prop) (after : Recognizer) : Prop :=
  ∃ nesting read token left, rest = read ++ token :: left ∧
    Progress goal whole after depth (before ++ read) (token :: left) ∧
    Derives symbol nesting (read.map Token.kind) ∧ next token.kind

variable {goal : Symbol}

namespace Progress

variable {whole before rest : List Token} {recognizer : Recognizer} {depth : Nat} {token : Token}

/-- Some token is always to come. -/
theorem exists_cons (progress : Progress goal whole recognizer depth before rest) :
    ∃ token left, rest = token :: left :=
  progress.stands.exists_cons

/-- A token of another kind than the end does not end the input. -/
theorem isEof_eq_false {token : Token} (going : token.kind ≠ .eof) : token.isEof = false := by
  simpa [Token.isEof] using going

/-- Peeking answers the kind of the next token. -/
theorem peek (progress : Progress goal whole recognizer depth before (token :: rest))
    {failed : RuleFailure → Recognizer → Prop} :
    Recognizer.peek.Ends recognizer
      (fun kind after => kind = token.kind ∧ Progress goal whole after depth before (token :: rest))
      failed :=
  progress.stands.peek.mono
    (fun _ _ found => ⟨found.1, found.2, progress.split, progress.passable⟩) fun _ _ bad => bad

/-- Behind a token that was taken where there is room, a run goes on. -/
theorem next (progress : Progress goal whole recognizer depth before (token :: rest))
    (room : Roomy goal (before.map Token.kind)) {after : Recognizer}
    (stands : after.Stands .failFast depth rest) :
    Progress goal whole after depth (before ++ [token]) rest :=
  ⟨stands, by simp [progress.split], by simpa using progress.passable.concat room token.kind⟩

/-- Consuming a token before the end moves on behind it. -/
theorem consume (progress : Progress goal whole recognizer depth before (token :: rest))
    (going : token.kind ≠ .eof) (room : Roomy goal (before.map Token.kind))
    {failed : RuleFailure → Recognizer → Prop} :
    Recognizer.consume.Ends recognizer
      (fun _ after => Progress goal whole after depth (before ++ [token]) rest) failed :=
  (progress.stands.consume (isEof_eq_false going)).mono
    (fun _ _ found => progress.next room found.2) fun _ _ bad => bad

/-- Where one kind is rightly expected, it is taken, or the run is cancelled. -/
theorem matchKind (progress : Progress goal whole recognizer depth before (token :: rest))
    {kind : Kind} (going : kind ≠ .eof) (room : Roomy goal (before.map Token.kind))
    (expectation : token.kind ≠ kind → Expectation goal (before.map Token.kind) [kind] token.kind) :
    (Recognizer.matchKind kind).Ends recognizer
      (fun _ after => token.kind = kind ∧ Progress goal whole after depth (before ++ [token]) rest)
      (Stops goal whole) := by
  by_cases due : token.kind = kind
  · subst due
    refine progress.stands.matchKind_of_eq.mono (fun _ _ found => ⟨rfl, progress.next room ?_⟩)
      fun _ _ bad => bad
    simpa [isEof_eq_false going] using found.2
  · refine (progress.stands.matchKind_of_ne due).mono (fun _ _ found => found) ?_
    rintro _ after ⟨rfl, stands⟩
    exact .rejected ⟨stands, progress.split, progress.passable⟩ (expectation due) room

/-- Where no alternative can start with the next token, the run is cancelled. -/
theorem noViableAlternative (progress : Progress goal whole recognizer depth before (token :: rest))
    {expected : List Kind} (follow : List Kind)
    (expectation : Expectation goal (before.map Token.kind) expected token.kind)
    (room : Roomy goal (before.map Token.kind)) {returned : Unit → Recognizer → Prop} :
    (Recognizer.noViableAlternative expected follow).Ends recognizer returned
      (Stops goal whole) := by
  refine (progress.stands.noViableAlternative expected follow).mono (fun _ _ found => found) ?_
  rintro _ after ⟨rfl, stands⟩
  exact .rejected ⟨stands, progress.split, progress.passable⟩ expectation room

/-- Opening and closing a construct does not move a run. -/
theorem of_depth (progress : Progress goal whole recognizer depth before rest) (other : Nat) :
    Progress goal whole { recognizer with depth := other } other before rest :=
  ⟨⟨progress.stands.strategy, rfl, progress.stands.shown⟩, progress.split, progress.passable⟩

end Progress

/-- Closing a construct does not change how a run stopped. -/
theorem Stops.of_depth {whole : List Token} {failure : RuleFailure} {after : Recognizer}
    (stops : Stops goal whole failure after) (other : Nat) :
    Stops goal whole failure { after with depth := other } := by
  cases stops with
  | rejected progress expectation room =>
    exact .rejected (progress.of_depth other) expectation room
  | full progress awaits => exact .full (progress.of_depth other) awaits

/-- Closing a construct does not change what a run has read. -/
theorem Reads.close {whole before rest : List Token} {symbol : Symbol} {depth : Nat}
    {next : Kind → Prop} {after : Recognizer}
    (reads : Reads goal whole symbol (depth + 1) before rest next after) :
    Reads goal whole symbol depth before rest next { after with depth := after.depth - 1 } := by
  obtain ⟨nesting, read, token, left, split, progress, derives, holds⟩ := reads
  have closed : after.depth - 1 = depth := by
    rw [progress.stands.depth]
    rfl
  exact ⟨nesting, read, token, left, split, closed ▸ progress.of_depth _, derives, holds⟩

/-! ## Expressions -/

/-- A kind that the operators of at least a precedence do not go on with. -/
def Ended (least : Nat) (kind : Kind) : Prop :=
  ∀ precedence, precedence? kind = some precedence → precedence < least

/-- What ends a whole expression is no operator. -/
theorem Ended.not_mem_operatorKinds {kind : Kind} (ended : Ended 0 kind) :
    kind ∉ operatorKinds := by
  rw [← precedence?_eq_none_iff]
  cases found : precedence? kind with
  | none => rfl
  | some precedence => exact absurd (ended precedence found) (Nat.not_lt_zero precedence)

/-- With so many steps, an expression that is due is read, up to a kind that does not go on with
it, or the run stops. -/
def ExpressionEnds (goal : Symbol) (steps : Nat) : Prop :=
  ∀ (least : Nat) (whole before rest : List Token) (recognizer : Recognizer) (depth : Nat),
    Progress goal whole recognizer depth before rest →
    Awaits goal .expression depth (before.map Token.kind) → depth ≤ maxDepth →
    2 * rest.length + 2 ≤ steps →
    (expression least steps).Ends recognizer
      (fun _ after => Reads goal whole .expression depth before rest (Ended least) after)
      (Stops goal whole)

/-- With so many steps, the operators behind an expression are read with their operands, up to a
kind that does not go on with it, or the run stops. -/
def OperationsEnd (goal : Symbol) (steps : Nat) : Prop :=
  ∀ (least nesting : Nat) (whole before read rest : List Token) (recognizer : Recognizer)
    (depth : Nat), Progress goal whole recognizer depth (before ++ read) rest →
    Awaits goal .expression depth (before.map Token.kind) →
    Derives .expression nesting (read.map Token.kind) → depth ≤ maxDepth →
    2 * rest.length + 1 ≤ steps →
    (operations least steps).Ends recognizer
      (fun _ after => Reads goal whole .expression depth before (read ++ rest) (Ended least) after)
      (Stops goal whole)

/-- With so many steps, a factor that is due is read, or the run stops. -/
def FactorEnds (goal : Symbol) (steps : Nat) : Prop :=
  ∀ (whole before rest : List Token) (recognizer : Recognizer) (depth : Nat),
    Progress goal whole recognizer depth before rest →
    Awaits goal .factor depth (before.map Token.kind) → depth ≤ maxDepth →
    2 * rest.length + 1 ≤ steps →
    (factor steps).Ends recognizer
      (fun _ after => Reads goal whole .factor depth before rest (fun _ => True) after)
      (Stops goal whole)

variable {whole before rest : List Token} {recognizer : Recognizer} {depth steps : Nat}

/-- An expression is a factor with the operators behind it. -/
theorem expressionEnds_succ (operationsEnd : OperationsEnd goal steps)
    (factorEnds : FactorEnds goal steps) : ExpressionEnds goal (steps + 1) := by
  intro least whole before rest recognizer depth progress awaits shallow enough
  refine (factorEnds whole before rest recognizer depth progress awaits.factor shallow
    (by omega)).bind ?_
  rintro _ after ⟨nesting, read, token, left, rfl, progress, derives, -⟩
  refine operationsEnd least nesting whole before read (token :: left) after depth progress awaits
    derives.factor shallow ?_
  simp only [List.length_append, List.length_cons] at enough ⊢
  omega

/-- An operator that is taken is followed by its right operand, and the operators go on behind
that. -/
theorem operationsEnd_succ (expressionEnds : ExpressionEnds goal steps)
    (operationsEnd : OperationsEnd goal steps) : OperationsEnd goal (steps + 1) := by
  intro least nesting whole before read rest recognizer depth progress awaits derives shallow enough
  obtain ⟨token, left, rfl⟩ := progress.exists_cons
  refine progress.peek.bind ?_
  rintro _ after ⟨rfl, progress⟩
  have here (stays : Ended least token.kind) :
      Reads goal whole .expression depth before (read ++ token :: left) (Ended least) after :=
    ⟨nesting, read, token, left, rfl, progress, derives, stays⟩
  cases found : precedence? token.kind with
  | none => exact Ends.pure (here fun precedence some => by simp [found] at some)
  | some precedence =>
    refine Ends.ite (fun low => ?_) fun high => ?_
    · refine Ends.pure (here fun other some => ?_)
      rw [found] at some
      injection some with same
      omega
    · have binary := mem_operatorKinds found
      have going : token.kind ≠ .eof := ne_of_mem_of_not_mem binary (by decide)
      have room : Roomy goal ((before ++ read).map Token.kind) := by
        simpa using awaits.roomy_value derives
      refine (progress.consume going room).bind ?_
      intro _ after progress
      have awaitsRight : Awaits goal .expression depth
          ((before ++ read ++ [token]).map Token.kind) := by
        simpa using awaits.operation derives binary
      simp only [List.length_cons] at enough
      refine (expressionEnds (precedence + 1) whole _ left after depth progress awaitsRight shallow
        (by omega)).bind ?_
      rintro _ after ⟨inner, operand, next, left, rfl, progress, right, -⟩
      have joined : Derives .expression (max nesting inner)
          ((read ++ [token] ++ operand).map Token.kind) := by
        simpa using derives.operation binary right
      simp only [List.length_append, List.length_cons] at enough
      have further := operationsEnd least _ whole before (read ++ [token] ++ operand) (next :: left)
        after depth (by simpa using progress) awaits joined shallow
        (by simp only [List.length_cons]; omega)
      simpa using further

/-- A token that is a factor by itself is read. -/
theorem ends_operand {token : Token} (operand : token.kind ∈ operandKinds)
    (progress : Progress goal whole recognizer depth before (token :: rest))
    (room : Roomy goal (before.map Token.kind)) :
    (do let _ ← Recognizer.consume : Rule Unit).Ends recognizer
      (fun _ after => Reads goal whole .factor depth before (token :: rest) (fun _ => True) after)
      (Stops goal whole) := by
  have going : token.kind ≠ .eof := ne_of_mem_of_not_mem operand (by decide)
  refine (progress.consume going room).bind fun _ after progress => Ends.pure ?_
  obtain ⟨next, left, rfl⟩ := progress.exists_cons
  exact ⟨1, [token], next, left, rfl, progress, .operand operand, trivial⟩

/-- Behind an opening parenthesis an expression and the closing one are read, or the run stops. -/
theorem ends_group (expressionEnds : ExpressionEnds goal steps) {token : Token}
    (parenthesis : token.kind = openKind)
    (progress : Progress goal whole recognizer (depth + 1) before (token :: rest))
    (awaits : Awaits goal .factor depth (before.map Token.kind)) (free : depth < maxDepth)
    (enough : 2 * rest.length + 2 ≤ steps) :
    (do
      let _ ← Recognizer.consume
      expression 0 steps
      let _ ← Recognizer.matchKind closeKind : Rule Unit).Ends recognizer
      (fun _ after =>
        Reads goal whole .factor (depth + 1) before (token :: rest) (fun _ => True) after)
      (Stops goal whole) := by
  have room := awaits.roomy_factor free
  refine (progress.consume (by rw [parenthesis]; decide) room).bind fun _ after progress => ?_
  have awaitsValue : Awaits goal .expression (depth + 1)
      ((before ++ [token]).map Token.kind) := by
    simpa [parenthesis] using awaits.group
  refine (expressionEnds 0 whole _ rest after (depth + 1) progress awaitsValue free enough).bind ?_
  rintro _ after ⟨nesting, value, next, left, rfl, progress, derives, ended⟩
  refine (progress.matchKind (by decide) ?_ fun other => ?_).bind ?_
  · simpa using awaitsValue.roomy_value derives
  · simpa [parenthesis] using
      expectation_close awaits derives ended.not_mem_operatorKinds other
  · rintro _ after ⟨due, progress⟩
    obtain ⟨further, left, rfl⟩ := progress.exists_cons
    refine ⟨nesting + 1, [token] ++ value ++ [next], further, left, by simp,
      by simpa using progress, ?_, trivial⟩
    simpa [parenthesis, due] using derives.group

/-- Behind a sign a factor is read, or the run stops. -/
theorem ends_negation (factorEnds : FactorEnds goal steps) {token : Token}
    (sign : token.kind = minusKind)
    (progress : Progress goal whole recognizer (depth + 1) before (token :: rest))
    (awaits : Awaits goal .factor depth (before.map Token.kind)) (free : depth < maxDepth)
    (enough : 2 * rest.length + 1 ≤ steps) :
    (do
      let _ ← Recognizer.consume
      factor steps : Rule Unit).Ends recognizer
      (fun _ after =>
        Reads goal whole .factor (depth + 1) before (token :: rest) (fun _ => True) after)
      (Stops goal whole) := by
  have room := awaits.roomy_factor free
  refine (progress.consume (by rw [sign]; decide) room).bind fun _ after progress => ?_
  have awaitsFactor : Awaits goal .factor (depth + 1)
      ((before ++ [token]).map Token.kind) := by
    simpa [sign] using awaits.negation
  refine (factorEnds whole _ rest after (depth + 1) progress awaitsFactor free enough).mono
    ?_ fun _ _ stops => stops
  rintro _ after ⟨nesting, inner, next, left, rfl, progress, derives, -⟩
  refine ⟨nesting + 1, [token] ++ inner, next, left, by simp, by simpa using progress, ?_, trivial⟩
  simpa [sign] using derives.negation

/-- A rule that is run as a factor stops where too many are open, and else reads what it reads with
one factor more open. -/
theorem ends_nestFactor {body : Rule Unit} {token : Token}
    (progress : Progress goal whole recognizer depth before (token :: rest))
    (awaits : Awaits goal .factor depth (before.map Token.kind)) (shallow : depth ≤ maxDepth)
    (inner : ∀ opened, depth < maxDepth →
      Progress goal whole opened (depth + 1) before (token :: rest) →
      body.Ends opened (fun _ after =>
        Reads goal whole .factor (depth + 1) before (token :: rest) (fun _ => True) after)
        (Stops goal whole)) :
    (nestFactor body).Ends recognizer
      (fun _ after => Reads goal whole .factor depth before (token :: rest) (fun _ => True) after)
      (Stops goal whole) := by
  have opened := progress.stands.depth
  refine Ends.ite (fun full => ?_) fun free => ?_
  · have same : depth = maxDepth := by omega
    subst same
    refine progress.stands.lookahead.bind ?_
    rintro _ after ⟨rfl, stands⟩
    exact .full ⟨stands, progress.split, progress.passable⟩ awaits
  · have inside : Progress goal whole { recognizer with depth := recognizer.depth + 1 } (depth + 1)
        before (token :: rest) := opened ▸ progress.of_depth _
    exact Ends.nested ((inner _ (by omega) inside).mono (fun _ _ reads => reads.close)
      fun _ _ stops => stops.of_depth _)

/-- A factor is read as its first token demands. -/
theorem factorEnds_succ (expressionEnds : ExpressionEnds goal steps)
    (factorEnds : FactorEnds goal steps) : FactorEnds goal (steps + 1) := by
  intro whole before rest recognizer depth progress awaits shallow enough
  obtain ⟨token, left, rfl⟩ := progress.exists_cons
  simp only [List.length_cons] at enough
  refine ends_nestFactor progress awaits shallow fun _ free inside => ?_
  refine inside.peek.bind ?_
  rintro _ after ⟨rfl, inside⟩
  refine Ends.ite (fun single => ?_) fun several => Ends.ite (fun parenthesis => ?_) fun other =>
    Ends.ite (fun sign => ?_) fun unusable => ?_
  · exact ends_operand (by simpa [operandKinds] using single) inside (awaits.roomy_factor free)
  · exact ends_group expressionEnds parenthesis inside awaits free (by omega)
  · exact ends_negation factorEnds sign inside awaits free (by omega)
  · refine inside.noViableAlternative factorFollow (expectation_factor awaits ?_)
      (awaits.roomy_factor free)
    simp only [factorStart, List.mem_cons, List.not_mem_nil, or_false, not_or]
    simp only [not_or] at several
    exact ⟨several.1, several.2.1, several.2.2, other, unusable⟩

/-- Twice as many steps as there are tokens to come, and two more, are enough. -/
theorem expressionEnds (steps : Nat) :
    ExpressionEnds goal steps ∧ OperationsEnd goal steps ∧ FactorEnds goal steps := by
  induction steps with
  | zero =>
    refine ⟨?_, ?_, ?_⟩
    · intro _ _ _ _ _ _ _ _ _ enough
      omega
    · intro _ _ _ _ _ _ _ _ _ _ _ _ enough
      omega
    · intro _ _ _ _ _ _ _ _ enough
      omega
  | succ steps ih =>
    obtain ⟨expression, operations, factor⟩ := ih
    exact ⟨expressionEnds_succ operations factor, operationsEnd_succ expression operations,
      factorEnds_succ expression factor⟩

/-! ## Statements -/

/-- Behind what leads in the expression of a statement, the expression and the end of the statement
are read, or the run stops. -/
theorem ends_value {lead : List Token} (leads : Leads (lead.map Token.kind))
    (progress : Progress goal whole recognizer depth (before ++ lead) rest)
    (awaits : Awaits goal .statement depth (before.map Token.kind)) (shallow : depth ≤ maxDepth)
    (enough : 2 * rest.length + 2 ≤ steps) :
    (do expression 0 steps; let _ ← Recognizer.matchKind semicolonKind : Rule Unit).Ends recognizer
      (fun _ after => Reads goal whole .statement depth before (lead ++ rest) (fun _ => True) after)
      (Stops goal whole) := by
  have awaitsValue : Awaits goal .expression depth ((before ++ lead).map Token.kind) := by
    rw [List.map_append]
    exact leads.awaits awaits
  refine ((expressionEnds steps).1 0 whole _ rest recognizer depth progress awaitsValue shallow
    enough).bind ?_
  rintro _ after ⟨nesting, value, token, left, rfl, progress, derives, ended⟩
  refine (progress.matchKind (by decide) ?_ fun other => ?_).bind ?_
  · simpa using awaitsValue.roomy_value derives
  · simpa using expectation_semicolon awaits leads derives ended.not_mem_operatorKinds other
  · rintro _ after ⟨due, progress⟩
    obtain ⟨next, left, rfl⟩ := progress.exists_cons
    refine Ends.pure ⟨nesting, lead ++ value ++ [token], next, left, by simp,
      by simpa using progress, ?_, trivial⟩
    simpa [due] using leads.derives derives

/-- A statement whose first word stands next is read, or the run stops. -/
theorem ends_statement {token : Token} (starts : token.kind ∈ statementStart)
    (progress : Progress goal whole recognizer depth before (token :: rest))
    (awaits : Awaits goal .statement depth (before.map Token.kind)) (shallow : depth ≤ maxDepth)
    (enough : 2 * rest.length + 2 ≤ steps) :
    (statement steps).Ends recognizer
      (fun _ after =>
        Reads goal whole .statement depth before (token :: rest) (fun _ => True) after)
      (Stops goal whole) := by
  refine progress.peek.bind ?_
  rintro _ after ⟨rfl, progress⟩
  refine Ends.ite (fun assignment => ?_) fun other => Ends.ite (fun output => ?_) fun neither => ?_
  · refine (progress.matchKind (by decide) awaits.roomy_statement (absurd assignment)).bind ?_
    rintro _ after ⟨-, progress⟩
    obtain ⟨name, rest, rfl⟩ := progress.exists_cons
    refine (progress.matchKind (by decide) ?_ fun other => ?_).bind ?_
    · simpa [assignment] using awaits.roomy_name
    · simpa [assignment] using expectation_name awaits other
    rintro _ after ⟨named, progress⟩
    obtain ⟨sign, rest, rfl⟩ := progress.exists_cons
    refine (progress.matchKind (by decide) ?_ fun other => ?_).bind ?_
    · simpa [assignment, named] using awaits.roomy_assign
    · simpa [assignment, named] using expectation_assign awaits other
    rintro _ after ⟨signed, progress⟩
    have led : [token, name, sign].map Token.kind = [letKind, nameKind, assignKind] := by
      simp [assignment, named, signed]
    simp only [List.length_cons] at enough
    exact ends_value (.inl led) (by simpa using progress) awaits shallow (by omega)
  · refine (progress.matchKind (by decide) awaits.roomy_statement (absurd output)).bind ?_
    rintro _ after ⟨-, progress⟩
    have led : [token].map Token.kind = [printKind] := by simp [output]
    exact ends_value (.inr led) progress awaits shallow enough
  · simp [statementStart, other, neither] at starts

/-- A run that has read a program and stands at the end token. -/
def Finished (whole : List Token) (after : Recognizer) : Prop :=
  ∃ before token, token.isEof = true ∧ Progress .program whole after 0 before [token] ∧
    Derivable .program (before.map Token.kind)

/-- Statements are read up to the end, in no more turns than there are tokens to come, or the run
stops. -/
theorem ends_statements {turns : Nat} (progress : Progress .program whole recognizer 0 before rest)
    (awaits : Awaits .program .program 0 (before.map Token.kind))
    (enough : 2 * rest.length + 2 ≤ steps) (patient : rest.length ≤ turns) :
    (statements steps turns).Ends recognizer (fun _ after => Finished whole after)
      (Stops .program whole) := by
  induction turns generalizing before rest recognizer with
  | zero =>
    obtain ⟨token, left, rfl⟩ := progress.exists_cons
    simp at patient
  | succ turns ih =>
    obtain ⟨token, left, rfl⟩ := progress.exists_cons
    simp only [List.length_cons] at enough patient
    refine progress.peek.bind ?_
    rintro _ after ⟨rfl, progress⟩
    refine Ends.ite (fun starts => ?_) fun other => Ends.ite (fun ends => ?_) fun going => ?_
    · refine (ends_statement starts progress awaits.statement (Nat.zero_le _) (by omega)).bind ?_
      rintro _ after ⟨nesting, read, next, left', split, progress, derives, -⟩
      have some : 0 < read.length := by
        have nonempty := derives.statement_ne_nil
        simpa [List.length_pos_iff] using nonempty
      have shorter := congrArg List.length split
      simp only [List.length_cons, List.length_append] at shorter
      exact ih progress (by simpa using awaits.append derives)
        (by simp only [List.length_cons]; omega) (by simp only [List.length_cons]; omega)
    · have finished : token.isEof = true := by simp [Token.isEof, ends]
      obtain rfl := progress.stands.shown.terminated_tokens.eq_singleton finished
      refine Ends.pure ⟨before, token, finished, progress, ?_⟩
      simpa using awaits.derivable rfl .empty rfl
    · refine (progress.noViableAlternative statementFollow (expectation_program awaits ?_)
        awaits.statement.roomy_statement).bind fun _ _ (impossible : False) => impossible.elim
      simpa using ⟨other, going⟩

/-- A rule is given the bound on its steps that the recognizer has outstanding. -/
theorem ends_bound_bind {rule : Nat → Rule Unit} {returned : Unit → Recognizer → Prop}
    {failed : RuleFailure → Recognizer → Prop}
    (ends : (rule (2 * recognizer.outstanding + 4)).Ends recognizer returned failed) :
    (bound >>= rule).Ends recognizer returned failed :=
  ends

/-- The start rule reads a program up to the end token, or the run stops. -/
theorem ends_startRule (progress : Progress .program whole recognizer 0 [] whole) :
    startRule.Ends recognizer (fun _ after => Finished whole after) (Stops .program whole) := by
  have room : whole.length ≤ recognizer.outstanding := progress.stands.shown.length_le
  refine ends_bound_bind ((ends_statements progress .start (by omega) (by omega)).bind ?_)
  rintro _ after ⟨before, token, ends, progress, derivable⟩
  have kind : token.kind = .eof := by simpa [Token.isEof] using ends
  have matched : (Recognizer.matchKind .eof).Ends after
      (fun _ after => Finished whole after) (Stops .program whole) := by
    rw [← kind]
    refine progress.stands.matchKind_of_eq.mono (fun _ after found => ?_) fun _ _ bad => bad
    have stands : after.Stands .failFast 0 [token] := by simpa [ends] using found.2
    exact ⟨before, token, ends, ⟨stands, progress.split, progress.passable⟩, derivable⟩
  exact matched.bind fun _ _ finished => Ends.pure finished

/-! ## The verdict -/

/-- A rightly refused token leaves no derivation of the whole source. -/
theorem not_derivable_of_expectation {source : TokenSource} {before rest : List Token}
    {token : Token} {expected : List Kind} (split : source.visible = before ++ token :: rest)
    (expectation : Expectation .program (before.map Token.kind) expected token.kind) :
    ¬ Derivable .program source.kinds := by
  intro derivable
  have terminated := (TokenBuffer.shows_ofSource source).terminated_tokens
  rw [split] at terminated
  rw [TokenBuffer.kinds_of_visible split] at derivable
  refine expectation.refused ?_
  unfold CanFollow
  cases ends : token.isEof with
  | true =>
    have last : rest = [] := by
      have remaining : Terminated ((before ++ token :: rest).drop before.length) :=
        terminated.drop (by simp)
      rw [List.drop_left] at remaining
      exact remaining.eq_singleton ends
    have kind : token.kind = .eof := by simpa [Token.isEof] using ends
    rw [if_pos kind]
    simpa [last, ends] using derivable
  | false =>
    have kind : token.kind ≠ .eof := by simpa [Token.isEof] using ends
    rw [if_neg kind]
    exact ⟨(rest.filter (!·.isEof)).map Token.kind, by simpa [ends] using derivable⟩

/-- On a fresh parser nothing has been read. -/
theorem Progress.start (goal : Symbol) (source : TokenSource) :
    Progress goal source.visible (grammar.parserUnder .failFast source).state 0 []
      source.visible :=
  ⟨⟨rfl, rfl, TokenBuffer.shows_ofSource source⟩, rfl, passable_nil⟩

/-- A strict call of the start rule on a fresh parser returns with a program read, or stops. -/
theorem invoke_startRule (source : TokenSource) :
    let run := (grammar.parserUnder .failFast source).invoke "startRule"
    (run.1 = .ok () ∧ Finished source.visible run.2.state) ∨
      ∃ failure, run.1 = .error failure ∧ Stops .program source.visible failure run.2.state := by
  intro run
  exact (grammar.parserUnder .failFast source).invoke_of_ends "startRule"
    (ends_startRule (Progress.start .program source))

/-- The kinds of a finished run are those of its source, which derive from the start rule. -/
theorem Finished.derivable {source : TokenSource} {after : Recognizer}
    (finished : Finished source.visible after) : Derivable .program source.kinds := by
  obtain ⟨before, token, ends, progress, derivable⟩ := finished
  rw [TokenBuffer.kinds_of_visible progress.split]
  simpa [ends] using derivable

/-- The start rule, called under the fail-fast strategy on any source, decides the syntax of Snafu.
It returns only for kinds that derive from the start rule, it is cancelled only for kinds that do
not, and otherwise it fails only where a factor is due while as many are open as may be. It returns
for all kinds that derive with no more factors in one another than that. -/
theorem startRule_decides (source : TokenSource) :
    let run := (grammar.parserUnder .failFast source).invoke "startRule"
    (run.1 = .ok () → Derivable .program source.kinds) ∧
      (∀ cause, run.1 = .error (.cancelled cause) → ¬ Derivable .program source.kinds) ∧
      (∀ message, run.1 = .error (.internal message) →
        ∃ before token rest, source.visible = before ++ token :: rest ∧
          run.2.state.input.Shows (token :: rest) ∧
          Awaits .program .factor maxDepth (before.map Token.kind) ∧
          tooDeep token.position.line = .internal message) ∧
      (∀ crash, run.1 ≠ .error (.crashed crash)) ∧
      ∀ nesting, Derives .program nesting source.kinds → nesting ≤ maxDepth → run.1 = .ok () := by
  intro run
  rcases invoke_startRule source with ⟨returned, finished⟩ | ⟨failure, failed, stops⟩
  · change run.1 = .ok () at returned
    simp only [returned]
    exact ⟨fun _ => finished.derivable, nofun, nofun, nofun, fun _ _ _ => trivial⟩
  · change run.1 = .error failure at failed
    simp only [failed]
    cases stops with
    | @rejected cause after depth before rest progress expectation =>
      have impossible := not_derivable_of_expectation progress.split expectation
      exact ⟨nofun, fun _ _ => impossible, nofun, nofun,
        fun nesting derives _ => absurd ⟨nesting, derives⟩ impossible⟩
    | @full token after depth before rest progress awaits =>
      refine ⟨nofun, nofun, fun message same => ?_, nofun, fun nesting derives shallow => ?_⟩
      · exact ⟨before, token, rest, progress.split, progress.stands.shown, awaits,
          Except.error.inj same⟩
      · have terminated := (TokenBuffer.shows_ofSource source).terminated_tokens
        rw [progress.split] at terminated
        rw [TokenSource.kinds, progress.split, terminated.filter_append, List.map_append] at derives
        have deep := awaits.opened_lt derives
        omega

/-- The start rule, cancelled under the fail-fast strategy, has read a viable prefix of a program.
The token it reports is the next one, which cannot follow what has been read, and every kind that
it says to have expected can. -/
theorem startRule_cancelled (source : TokenSource) (cause : RecognitionError)
    (cancelled : ((grammar.parserUnder .failFast source).invoke "startRule").1 =
      .error (.cancelled cause)) :
    let input := ((grammar.parserUnder .failFast source).invoke "startRule").2.state.input
    ∃ consumed rest, source.visible = consumed ++ cause.offending :: rest ∧
      input.Shows (cause.offending :: rest) ∧ (input.lookahead 1).1 = cause.offending ∧
      Viable .program (consumed.map Token.kind) ∧
      ¬ CanFollow .program (consumed.map Token.kind) cause.offending.kind ∧
      ∀ kind ∈ cause.expected, CanFollow .program (consumed.map Token.kind) kind := by
  intro input
  rcases invoke_startRule source with ⟨returned, -⟩ | ⟨failure, failed, stops⟩
  · rw [cancelled] at returned
    cases returned
  · rw [cancelled] at failed
    obtain rfl := Except.error.inj failed
    generalize same : RuleFailure.cancelled cause = failure at stops
    cases stops with
    | @rejected found after depth before rest progress expectation =>
      obtain rfl := RuleFailure.cancelled.inj same
      have next := (progress.stands.shown.lookahead 1).1
      exact ⟨before, rest, progress.split, progress.stands.shown, by simpa using next.symm,
        expectation.viable, expectation.refused, expectation.sound⟩
    | full progress awaits => cases same

/-- Two numbers behind `print`: the second one is refused, and the separator in its place is not. -/
theorem startRule_cancelled_at_number :
    let second := Token.new numberKind "2" Position.start
    let source := TokenSource.script "numbers"
      [Token.new printKind "print" Position.start, Token.new numberKind "1" Position.start, second]
    let cause : RecognitionError := ⟨.mismatch "';'", second.number 2, [semicolonKind]⟩
    ((grammar.parserUnder .failFast source).invoke "startRule").1 = .error (.cancelled cause) ∧
      ∃ consumed rest, source.visible = consumed ++ second.number 2 :: rest ∧
        ¬ CanFollow .program (consumed.map Token.kind) numberKind ∧
        CanFollow .program (consumed.map Token.kind) semicolonKind := by
  intro second source cause
  have cancelled : ((grammar.parserUnder .failFast source).invoke "startRule").1 =
      .error (.cancelled cause) := by decide +kernel
  obtain ⟨consumed, rest, split, -, -, -, refused, sound⟩ :=
    startRule_cancelled source cause cancelled
  exact ⟨cancelled, consumed, rest, split, refused, sound semicolonKind (List.mem_singleton.2 rfl)⟩

end Conformance.Snafu
