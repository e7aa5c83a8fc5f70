import Conformance.Grammar.Snafu.Rules
import Conformance.Proofs.Recognition.Likeness

/-!
# Snafu on alike tokens

A rule of Snafu asks its tokens for their kinds and for nothing else, so it agrees with itself on
alike tokens, whatever the likeness. Two recognizers bound their steps by their own buffers, so this
is shown for any two bounds that suffice.
-/

namespace Conformance.Snafu

open Likeness

variable (likeness : Likeness) (names : List String) (former : Strategy)

/-! ## Expressions -/

/-- With so many steps, an expression agrees with one that has as many as it takes. -/
def ExpressionAgrees (steps : Nat) : Prop :=
  ∀ (others least depth : Nat) (pairs : List (Token × Token)), 2 * pairs.length + 2 ≤ steps →
    2 * pairs.length + 2 ≤ others →
    likeness.Agree names former depth pairs (fun _ => True) (expression least steps)
      (expression least others)

/-- With so many steps, operators with their operands agree with those that have as many as it
takes. -/
def OperationsAgree (steps : Nat) : Prop :=
  ∀ (others least depth : Nat) (pairs : List (Token × Token)), 2 * pairs.length + 1 ≤ steps →
    2 * pairs.length + 1 ≤ others →
    likeness.Agree names former depth pairs (fun _ => True) (operations least steps)
      (operations least others)

/-- With so many steps, a factor agrees with one that has as many as it takes. -/
def FactorAgrees (steps : Nat) : Prop :=
  ∀ (others depth : Nat) (pairs : List (Token × Token)), 2 * pairs.length + 1 ≤ steps →
    2 * pairs.length + 1 ≤ others →
    likeness.Agree names former depth pairs (fun _ => True) (factor steps) (factor others)

variable {likeness names former} {steps others depth : Nat} {token : Token}
  {pair : Token × Token} {pairs : List (Token × Token)}

/-- A token of another kind than the end token does not end the input. -/
theorem isEof_of_kind {kind : Kind} (same : token.kind = kind) (other : kind ≠ .eof) :
    token.isEof = false := by
  simpa [Token.isEof, same] using other

/-- An operator does not end the input. -/
theorem isEof_of_precedence? {precedence : Nat}
    (operator : precedence? token.kind = some precedence) : token.isEof = false := by
  refine isEof_of_kind rfl fun ends => ?_
  rw [ends] at operator
  cases operator

/-- Factors that are due too deep fail alike at alike tokens. -/
theorem failures_tooDeep {other : Token} (same : likeness.alike token other) :
    likeness.Failures (tooDeep token.position.line) (tooDeep other.position.line) := by
  apply Failures.internal
  intro keeps
  rw [keeps token other same]

/-- Rules that agree with one more open agree as factors. -/
theorem agree_nestFactor {body other : Rule Unit}
    (inner : likeness.Agree names former (depth + 1) pairs (fun _ => True) body other) :
    likeness.Agree names former depth pairs (fun _ => True) (nestFactor body)
      (nestFactor other) := by
  intro one two abreast
  let refused : Rule Unit := do throw (tooDeep (← Recognizer.lookahead 1).position.line)
  have agree : likeness.Agree names former depth pairs (fun _ => True)
      (if maxDepth ≤ depth then refused else Recognizer.nested body)
      (if maxDepth ≤ depth then refused else Recognizer.nested other) := by
    refine Agree.ite (fun _ => Agree.of_cons fun pair more split same => ?_) fun _ =>
      Agree.nested inner
    subst split
    exact Agree.lookahead_bind (Agree.throw (failures_tooDeep same))
  have met := agree one two abreast
  have opened := abreast.depth
  have otherOpened := abreast.otherDepth
  show likeness.Meet names former depth _ _
    ((if maxDepth ≤ one.depth then refused else _ : Rule Unit) one)
    ((if maxDepth ≤ two.depth then refused else _ : Rule Unit) two)
  rw [opened, otherOpened]
  exact met

/-- An expression agrees if its first factor and its operators do. -/
theorem expressionAgrees_succ (operationsAgree : OperationsAgree likeness names former steps)
    (factorAgrees : FactorAgrees likeness names former steps) :
    ExpressionAgrees likeness names former (steps + 1) := by
  intro others least depth pairs enough otherEnough
  obtain ⟨others, rfl⟩ : ∃ fewer, others = fewer + 1 := ⟨others - 1, by omega⟩
  refine (factorAgrees others depth pairs (by omega) (by omega)).bind fun left last _ _ _ => ?_
  have shorter := last.length_le
  exact operationsAgree others least depth left (by omega) (by omega)

/-- Operators agree if expressions and further operators do. -/
theorem operationsAgree_succ (expressionAgrees : ExpressionAgrees likeness names former steps)
    (operationsAgree : OperationsAgree likeness names former steps) :
    OperationsAgree likeness names former (steps + 1) := by
  intro others least depth whole enough otherEnough
  obtain ⟨others, rfl⟩ : ∃ fewer, others = fewer + 1 := ⟨others - 1, by omega⟩
  refine Agree.of_cons fun pair pairs split same => ?_
  subst split
  simp only [List.length_cons] at enough otherEnough
  refine Agree.peek_bind same ?_
  cases operator : precedence? pair.1.kind with
  | none => exact Agree.pure trivial
  | some precedence =>
    refine Agree.ite (fun _ => Agree.pure trivial) fun _ => ?_
    refine Agree.consume_bind (isEof_of_precedence? operator) fun _ _ => ?_
    refine (expressionAgrees others (precedence + 1) depth pairs (by omega) (by omega)).bind
      fun left last _ _ _ => ?_
    have shorter := last.length_le
    exact operationsAgree others least depth left (by omega) (by omega)

/-- A factor agrees if the factors and expressions inside do. -/
theorem factorAgrees_succ (expressionAgrees : ExpressionAgrees likeness names former steps)
    (factorAgrees : FactorAgrees likeness names former steps) :
    FactorAgrees likeness names former (steps + 1) := by
  intro others depth whole enough otherEnough
  obtain ⟨others, rfl⟩ : ∃ fewer, others = fewer + 1 := ⟨others - 1, by omega⟩
  refine agree_nestFactor (Agree.of_cons fun pair pairs split same => ?_)
  subst split
  simp only [List.length_cons] at enough otherEnough
  refine Agree.peek_bind same ?_
  refine Agree.ite (fun single => ?_) fun several => Agree.ite (fun parenthesis => ?_) fun other =>
    Agree.ite (fun sign => ?_) fun unusable => ?_
  · exact Agree.consume.bind fun _ _ _ _ _ => Agree.pure trivial
  · refine Agree.consume_bind (isEof_of_kind parenthesis (by decide)) fun _ _ => ?_
    refine (expressionAgrees others 0 _ pairs (by omega) (by omega)).bind fun left last _ _ _ => ?_
    exact (Agree.matchKind closeKind).bind fun _ _ _ _ _ => Agree.pure trivial
  · refine Agree.consume_bind (isEof_of_kind sign (by decide)) fun _ _ => ?_
    exact factorAgrees others _ pairs (by omega) (by omega)
  · exact (Agree.noViableAlternative factorStart factorFollow).mono fun _ _ _ => trivial

variable (likeness names former) in
/-- Rules of expressions agree under any two bounds on their steps that suffice. -/
theorem expressionAgrees (steps : Nat) :
    ExpressionAgrees likeness names former steps ∧ OperationsAgree likeness names former steps ∧
      FactorAgrees likeness names former steps := by
  induction steps with
  | zero =>
    refine ⟨?_, ?_, ?_⟩
    · intro _ _ _ _ enough
      omega
    · intro _ _ _ _ enough
      omega
    · intro _ _ _ enough
      omega
  | succ steps ih =>
    obtain ⟨expression, operations, factor⟩ := ih
    exact ⟨expressionAgrees_succ operations factor, operationsAgree_succ expression operations,
      factorAgrees_succ expression factor⟩

/-! ## Statements -/

/-- The expression of a statement and its end agree. -/
theorem agree_value (enough : 2 * pairs.length + 2 ≤ steps)
    (otherEnough : 2 * pairs.length + 2 ≤ others) :
    likeness.Agree names former depth pairs (fun _ => True)
      (do expression 0 steps; let _ ← Recognizer.matchKind semicolonKind)
      (do expression 0 others; let _ ← Recognizer.matchKind semicolonKind) := by
  refine ((expressionAgrees likeness names former steps).1 others 0 depth pairs enough
    otherEnough).bind fun left last _ _ _ => ?_
  exact (Agree.matchKind semicolonKind).bind fun _ _ _ _ _ => Agree.pure trivial

/-- What stands behind the first word of an assignment agrees. -/
theorem agree_assignment (enough : 2 * pairs.length + 2 ≤ steps)
    (otherEnough : 2 * pairs.length + 2 ≤ others) :
    likeness.Agree names former depth pairs (fun _ => True)
      (do
        let _ ← Recognizer.matchKind nameKind
        let _ ← Recognizer.matchKind assignKind
        expression 0 steps
        let _ ← Recognizer.matchKind semicolonKind)
      (do
        let _ ← Recognizer.matchKind nameKind
        let _ ← Recognizer.matchKind assignKind
        expression 0 others
        let _ ← Recognizer.matchKind semicolonKind) := by
  refine (Agree.matchKind nameKind).bind fun behindName last _ _ _ => ?_
  refine (Agree.matchKind assignKind).bind fun behindSign further _ _ _ => ?_
  have shorter := (further.trans last).length_le
  exact agree_value (by omega) (by omega)

/-- Statements agree, and behind tokens that start one fewer pairs are left. -/
theorem agree_statement (same : likeness.alike pair.1 pair.2)
    (enough : 2 * pairs.length + 2 ≤ steps) (otherEnough : 2 * pairs.length + 2 ≤ others) :
    likeness.Agree names former depth (pair :: pairs)
      (fun left => pair.1.kind ∈ statementStart → left.length ≤ pairs.length)
      (statement steps) (statement others) := by
  refine Agree.peek_bind same ?_
  refine Agree.ite (fun assignment => ?_) fun other => Agree.ite (fun output => ?_)
    fun neither => ?_
  · have going := isEof_of_kind assignment (by decide)
    refine Agree.matchKind_bind same assignment going fun _ _ => ?_
    exact (agree_assignment enough otherEnough).mono fun _ last _ _ => last.length_le
  · have going := isEof_of_kind output (by decide)
    refine Agree.matchKind_bind same output going fun _ _ => ?_
    exact (agree_value enough otherEnough).mono fun _ last _ _ => last.length_le
  · refine (Agree.noViableAlternative statementStart statementFollow).mono fun _ _ _ starts => ?_
    simp [statementStart, other, neither] at starts

/-- Statements up to the end agree, with as many turns as there are pairs to come. -/
theorem agree_statements {turns : Nat} (enough : 2 * pairs.length + 2 ≤ steps)
    (otherEnough : 2 * pairs.length + 2 ≤ others) (patient : pairs.length ≤ turns)
    {otherTurns : Nat} (otherPatient : pairs.length ≤ otherTurns) :
    likeness.Agree names former depth pairs (fun _ => True) (statements steps turns)
      (statements others otherTurns) := by
  induction turns generalizing pairs otherTurns with
  | zero =>
    refine Agree.of_cons fun pair left split _ => ?_
    simp [split] at patient
  | succ turns ih =>
    refine Agree.of_cons fun pair further split same => ?_
    subst split
    simp only [List.length_cons] at enough otherEnough patient otherPatient
    obtain ⟨otherTurns, rfl⟩ : ∃ fewer, otherTurns = fewer + 1 := ⟨otherTurns - 1, by omega⟩
    refine Agree.peek_bind same ?_
    refine Agree.ite (fun starts => ?_) fun other => Agree.ite (fun ends => ?_) fun going => ?_
    · refine (agree_statement same (by omega) (by omega)).bind fun left last shorter _ _ => ?_
      have fewer := shorter starts
      exact ih (by omega) (by omega) (by omega) (by omega)
    · exact Agree.pure trivial
    · refine (Agree.noViableAlternative _ statementFollow).bind fun left last resumed _ _ => ?_
      have passed : pair.1.resumes statementFollow = false := by
        simpa [Token.resumes, Token.isEof, going, statementFollow, statementStart] using other
      rw [Likeness.resumption_of_not_resumes passed] at resumed
      have shorter : left.length ≤ further.length := by
        rw [resumed]
        exact (List.dropWhile_suffix _).length_le
      exact ih (by omega) (by omega) (by omega) (by omega)

/-! ## Rules by their names -/

/-- Rules that are given the bounds of their own recognizers agree if they do under any two bounds
that suffice. -/
theorem agree_bound_bind {rule : Nat → Rule Unit} {reach : List (Token × Token) → Prop}
    (agree : ∀ steps others, 2 * pairs.length + 4 ≤ steps → 2 * pairs.length + 4 ≤ others →
      likeness.Agree names former depth pairs reach (rule steps) (rule others)) :
    likeness.Agree names former depth pairs reach (bound >>= rule) (bound >>= rule) := by
  intro one two abreast
  obtain ⟨room, otherRoom⟩ := abreast.shown.length_le
  have bounded : pairs.length ≤ one.outstanding := room
  have otherBounded : pairs.length ≤ two.outstanding := otherRoom
  exact agree _ _ (by omega) (by omega) one two abreast

/-- Every rule that Snafu offers by a name agrees with itself. -/
theorem agree_rule (name : String) :
    likeness.Agree names former depth pairs (fun _ => True) (rule name) (rule name) := by
  unfold rule
  split
  · refine agree_bound_bind fun steps others enough otherEnough => ?_
    refine (agree_statements (by omega) (by omega) (by omega) (by omega)).bind fun _ _ _ _ _ => ?_
    exact (Agree.matchKind .eof).bind fun _ _ _ _ _ => Agree.pure trivial
  · refine agree_bound_bind fun steps others enough otherEnough => ?_
    refine Agree.of_cons fun pair left split same => ?_
    subst split
    simp only [List.length_cons] at enough otherEnough
    exact (agree_statement same (by omega) (by omega)).mono fun _ _ _ => trivial
  · refine agree_bound_bind fun steps others enough otherEnough => ?_
    exact (expressionAgrees likeness names former steps).1 others 0 depth pairs (by omega)
      (by omega)
  · refine agree_bound_bind fun steps others enough otherEnough => ?_
    exact (expressionAgrees likeness names former steps).2.2 others depth pairs (by omega)
      (by omega)
  · exact Agree.throw (.internal fun _ => rfl)

end Conformance.Snafu
