import Conformance.Proofs.Recognition.Repair
import Conformance.Proofs.Snafu.Verdict

/-!
# Recovering runs of the start rule

A run of the start rule that repairs errors takes its text for another one: kinds are made up where
they are missing, superfluous tokens are dropped, and what fits nowhere is skipped. The text that it
takes its own for is a program, or the beginning of one up to a factor that would be one too many.
Every token consumed pays for four reports. The tokens that a rule has consumed pay for the reports
made so far and for those that are still to be made while nothing more is consumed, so the reports
of a run are no more than four for each token.
-/

namespace Conformance.Snafu

open Recognizer Rule

/-! ## Repaired texts -/

/-- The kinds of single tokens that are made up where they are missing. -/
def dueKinds : List Kind := [nameKind, assignKind, semicolonKind, closeKind]

/-- Tokens are taken for other kinds than their own, with so many reports. A sign or a parenthesis
that opens a factor is always one of the tokens. -/
inductive Repaired : List Token → List Kind → Nat → Prop
  /-- Nothing has been read. -/
  | start : Repaired [] [] 0
  /-- A token is taken for what it is. -/
  | keep {before : List Token} {taken : List Kind} {reports : Nat}
    (repaired : Repaired before taken reports) (token : Token) :
    Repaired (before ++ [token]) (taken ++ [token.kind]) reports
  /-- A superfluous token is dropped before one that is due. -/
  | drop {before : List Token} {taken : List Kind} {reports : Nat}
    (repaired : Repaired before taken reports) {extra token : Token} (due : token.kind ∈ dueKinds)
    (other : extra.kind ≠ token.kind) :
    Repaired (before ++ [extra, token]) (taken ++ [token.kind]) (reports + 1)
  /-- A kind that is due is made up. -/
  | makeUp {before : List Token} {taken : List Kind} {reports : Nat} {kind : Kind}
    (repaired : Repaired before taken reports) (due : kind ∈ dueKinds) :
    Repaired before (taken ++ [kind]) (reports + 1)
  /-- Where a factor is due, tokens on which no expression can go on are taken for an operand. -/
  | operand {before skipped : List Token} {taken : List Kind} {reports opened : Nat}
    (repaired : Repaired before taken reports) (due : Awaits .program .factor opened taken)
    (unusable : ∀ token ∈ skipped, token.kind ∉ factorFollow) :
    Repaired (before ++ skipped) (taken ++ [nameKind]) (reports + 1)
  /-- Where statements are due, tokens that start none are taken for nothing. -/
  | skip {before skipped : List Token} {taken : List Kind} {reports : Nat}
    (repaired : Repaired before taken reports) (due : Awaits .program .program 0 taken)
    (unusable : ∀ token ∈ skipped, token.kind ∉ statementFollow) :
    Repaired (before ++ skipped) taken (reports + 1)

/-! ## Recovering runs -/

/-- A recovering run over the tokens of `whole` takes those consumed for the kinds in `taken`, and
those in `rest` are to come. The tokens consumed pay for the reports made and for `spare` more. -/
def Recovering (whole : List Token) (recognizer : Recognizer) (depth : Nat) (taken : List Kind)
    (rest : List Token) (spare : Nat) : Prop :=
  ∃ before reported, whole = before ++ rest ∧
    recognizer.Stands (.recovering reported) depth rest ∧ Repaired before taken reported.size ∧
    reported.size + spare ≤ 4 * before.length

/-- A recovering run has taken tokens for a text of a symbol and left at most so many. -/
def Restores (whole : List Token) (symbol : Symbol) (depth : Nat) (taken : List Kind)
    (most spare : Nat) (after : Recognizer) : Prop :=
  ∃ nesting kinds rest, rest.length ≤ most ∧ Derives symbol nesting kinds ∧
    Recovering whole after depth (taken ++ kinds) rest spare

/-- A recovering run fails where a factor is due inside as many others as may be open. -/
def Overflows (whole : List Token) (failure : RuleFailure) (after : Recognizer) : Prop :=
  ∃ depth taken token rest spare, failure = tooDeep token.position.line ∧
    Recovering whole after depth taken (token :: rest) spare ∧
    Awaits .program .factor maxDepth taken

namespace Recovering

variable {whole rest : List Token} {recognizer : Recognizer} {depth spare : Nat}
  {taken : List Kind} {token : Token} {kind : Kind}

/-- Some token is always to come. -/
theorem exists_cons (recovering : Recovering whole recognizer depth taken rest spare) :
    ∃ token left, rest = token :: left := by
  obtain ⟨before, reported, -, stands, -, -⟩ := recovering
  exact stands.exists_cons

/-- Less can be asked to be paid for. -/
theorem mono (recovering : Recovering whole recognizer depth taken rest spare) {less : Nat}
    (bound : less ≤ spare) : Recovering whole recognizer depth taken rest less := by
  obtain ⟨before, reported, split, stands, repaired, paid⟩ := recovering
  exact ⟨before, reported, split, stands, repaired, by omega⟩

/-- Opening and closing a construct does not move a run. -/
theorem of_depth (recovering : Recovering whole recognizer depth taken rest spare) (other : Nat) :
    Recovering whole { recognizer with depth := other } other taken rest spare := by
  obtain ⟨before, reported, split, stands, repaired, paid⟩ := recovering
  exact ⟨before, reported, split, ⟨stands.strategy, rfl, stands.shown⟩, repaired, paid⟩

/-- Peeking answers the kind of the next token. -/
theorem peek (recovering : Recovering whole recognizer depth taken (token :: rest) spare)
    {failed : RuleFailure → Recognizer → Prop} :
    Recognizer.peek.Ends recognizer
      (fun kind after => kind = token.kind ∧
        Recovering whole after depth taken (token :: rest) spare) failed := by
  obtain ⟨before, reported, split, stands, repaired, paid⟩ := recovering
  refine stands.peek.mono (fun _ after found => ⟨found.1, ?_⟩) fun _ _ bad => bad
  exact ⟨before, reported, split, found.2, repaired, paid⟩

/-- A token that is kept pays for four reports. -/
theorem consume (recovering : Recovering whole recognizer depth taken (token :: rest) spare)
    (going : token.kind ≠ .eof) {failed : RuleFailure → Recognizer → Prop} :
    Recognizer.consume.Ends recognizer
      (fun _ after => Recovering whole after depth (taken ++ [token.kind]) rest (spare + 4))
      failed := by
  obtain ⟨before, reported, split, stands, repaired, paid⟩ := recovering
  have open' : token.isEof = false := by simpa [Token.isEof] using going
  refine (stands.consume open').mono (fun _ after found => ?_) fun _ _ bad => bad
  refine ⟨before ++ [token], reported, by simp [split], found.2, repaired.keep token, ?_⟩
  simp only [List.length_append, List.length_cons, List.length_nil]
  omega

/-- A token of the kind due is kept. -/
theorem matchKind_of_eq (recovering : Recovering whole recognizer depth taken (token :: rest) spare)
    (due : token.kind = kind) (going : kind ≠ .eof) {failed : RuleFailure → Recognizer → Prop} :
    (Recognizer.matchKind kind).Ends recognizer
      (fun _ after => Recovering whole after depth (taken ++ [kind]) rest (spare + 4)) failed := by
  subst due
  obtain ⟨before, reported, split, stands, repaired, paid⟩ := recovering
  have open' : token.isEof = false := by simpa [Token.isEof] using going
  refine stands.matchKind_of_eq.mono (fun _ after found => ?_) fun _ _ bad => bad
  have left : after.Stands (.recovering reported) depth rest := by simpa [open'] using found.2
  refine ⟨before ++ [token], reported, by simp [split], left, repaired.keep token, ?_⟩
  simp only [List.length_append, List.length_cons, List.length_nil]
  omega

/-- A kind that is due is taken with at most one report, whatever comes next. -/
theorem matchKind (recovering : Recovering whole recognizer depth taken rest (spare + 1))
    (due : kind ∈ dueKinds) {failed : RuleFailure → Recognizer → Prop} :
    (Recognizer.matchKind kind).Ends recognizer
      (fun _ after => ∃ left, left.length ≤ rest.length ∧
        Recovering whole after depth (taken ++ [kind]) left spare) failed := by
  have going : kind ≠ .eof := ne_of_mem_of_not_mem due (by decide)
  obtain ⟨token, rest, rfl⟩ := recovering.exists_cons
  by_cases fits : token.kind = kind
  · refine (recovering.matchKind_of_eq fits going).mono (fun _ after kept => ?_) fun _ _ bad => bad
    exact ⟨rest, by simp, kept.mono (by omega)⟩
  obtain ⟨before, reported, split, stands, repaired, paid⟩ := recovering
  by_cases behind : token.isEof = false ∧ ∃ next left, rest = next :: left ∧ next.kind = kind
  · obtain ⟨running, next, left, rfl, rfl⟩ := behind
    have open' : next.isEof = false := by simpa [Token.isEof] using going
    refine (stands.matchKind_drop running fits).mono (fun _ after found => ?_) fun _ _ bad => bad
    obtain ⟨-, stands⟩ := found
    have shorter : left.length ≤ (token :: next :: left).length := by
      simp only [List.length_cons]
      omega
    refine ⟨left, shorter, before ++ [token, next], reported.push _, by simp [split],
      by simpa [open'] using stands, ?_, ?_⟩
    · rw [Array.size_push]
      exact repaired.drop due fits
    · simp only [Array.size_push, List.length_append, List.length_cons, List.length_nil]
      omega
  · have absent : ∀ next ∈ rest.head?, next.kind ≠ kind := by
      intro next found same
      obtain ⟨left, rfl⟩ := List.head?_eq_some_iff.1 found
      cases running : token.isEof with
      | false => exact behind ⟨running, next, left, rfl, same⟩
      | true => simpa using stands.shown.terminated_tokens.eq_singleton running
    refine (stands.matchKind_makeUp fits absent).mono (fun _ after found => ?_) fun _ _ bad => bad
    obtain ⟨-, stands⟩ := found
    refine ⟨token :: rest, le_rfl, before, reported.push _, split, stands, ?_, ?_⟩
    · rw [Array.size_push]
      exact repaired.makeUp due
    · rw [Array.size_push]
      omega

/-- Where a factor is due and cannot start, an operand is made up with one report. -/
theorem operand (recovering : Recovering whole recognizer depth taken (token :: rest) (spare + 1))
    {opened : Nat} (awaits : Awaits .program .factor opened taken)
    {failed : RuleFailure → Recognizer → Prop} :
    (Recognizer.noViableAlternative factorStart factorFollow).Ends recognizer
      (fun _ after => ∃ left, left.length ≤ (token :: rest).length ∧
        Recovering whole after depth (taken ++ [nameKind]) left spare) failed := by
  obtain ⟨before, reported, split, stands, repaired, paid⟩ := recovering
  refine (stands.noViableAlternative_resume factorStart factorFollow).mono
    (fun _ after stands => ?_) fun _ _ bad => bad
  obtain ⟨skipped, whole_eq, unusable⟩ := exists_skipped factorFollow (token :: rest)
  have lengths := congrArg List.length whole_eq
  rw [List.length_append] at lengths
  refine ⟨_, by omega, before ++ skipped, reported.push _, ?_, stands, ?_, ?_⟩
  · rw [split, List.append_assoc, ← whole_eq]
  · rw [Array.size_push]
    exact repaired.operand awaits unusable
  · rw [Array.size_push, List.length_append]
    omega

/-- Where a statement is due and cannot start, at least the next token is skipped, which pays for
the report. -/
theorem skip (recovering : Recovering whole recognizer depth taken (token :: rest) spare)
    (awaits : Awaits .program .program 0 taken) (expected : List Kind)
    (other : token.kind ∉ statementFollow)
    {failed : RuleFailure → Recognizer → Prop} :
    (Recognizer.noViableAlternative expected statementFollow).Ends recognizer
      (fun _ after => ∃ left, left.length ≤ rest.length ∧
        Recovering whole after depth taken left spare) failed := by
  obtain ⟨before, reported, split, stands, repaired, paid⟩ := recovering
  have going : token.kind ≠ .eof := (ne_of_mem_of_not_mem (by decide) other).symm
  have passed : token.resumes statementFollow = false := by
    simpa [Token.resumes, Token.isEof, going] using other
  refine (stands.noViableAlternative_resume expected statementFollow).mono
    (fun _ after stands => ?_) fun _ _ bad => bad
  rw [resumption_of_not_resumes passed] at stands
  obtain ⟨skipped, rest_eq, unusable⟩ := exists_skipped statementFollow rest
  have lengths := congrArg List.length rest_eq
  rw [List.length_append] at lengths
  refine ⟨_, by omega, before ++ token :: skipped, reported.push _, ?_, stands, ?_, ?_⟩
  · rw [split, List.append_assoc, List.cons_append, ← rest_eq]
  · rw [Array.size_push]
    exact repaired.skip awaits (List.forall_mem_cons.2 ⟨other, unusable⟩)
  · simp only [Array.size_push, List.length_append, List.length_cons]
    omega

end Recovering

/-- Closing a construct does not change what a run has taken. -/
theorem Restores.close {whole : List Token} {symbol : Symbol} {depth most spare : Nat}
    {taken : List Kind} {after : Recognizer}
    (restores : Restores whole symbol (depth + 1) taken most spare after) :
    Restores whole symbol depth taken most spare { after with depth := after.depth - 1 } := by
  obtain ⟨nesting, kinds, rest, bound, derives, recovering⟩ := restores
  have closed : after.depth - 1 = depth := by
    obtain ⟨before, reported, -, stands, -, -⟩ := recovering
    rw [stands.depth]
    rfl
  exact ⟨nesting, kinds, rest, bound, derives, closed ▸ recovering.of_depth _⟩

/-- Closing a construct does not change where a run failed. -/
theorem Overflows.of_depth {whole : List Token} {failure : RuleFailure} {after : Recognizer}
    (overflows : Overflows whole failure after) (other : Nat) :
    Overflows whole failure { after with depth := other } := by
  obtain ⟨depth, taken, token, rest, spare, failed, recovering, awaits⟩ := overflows
  exact ⟨other, taken, token, rest, spare, failed, recovering.of_depth other, awaits⟩

/-! ## Expressions -/

/-- With so many steps, an expression that is due is taken, or a factor is one too many. -/
def ExpressionRestores (steps : Nat) : Prop :=
  ∀ (least : Nat) (whole rest : List Token) (taken : List Kind) (recognizer : Recognizer)
    (depth spare : Nat), Recovering whole recognizer depth taken rest (spare + 1) →
    Awaits .program .expression depth taken → depth ≤ maxDepth → 2 * rest.length + 2 ≤ steps →
    (expression least steps).Ends recognizer
      (fun _ after => Restores whole .expression depth taken rest.length spare after)
      (Overflows whole)

/-- With so many steps, the operators behind an expression are taken with their operands, or a
factor is one too many. -/
def OperationsRestore (steps : Nat) : Prop :=
  ∀ (least nesting : Nat) (whole rest : List Token) (taken value : List Kind)
    (recognizer : Recognizer) (depth spare : Nat),
    Recovering whole recognizer depth (taken ++ value) rest spare →
    Awaits .program .expression depth taken → Derives .expression nesting value →
    depth ≤ maxDepth → 2 * rest.length + 1 ≤ steps →
    (operations least steps).Ends recognizer
      (fun _ after => Restores whole .expression depth taken rest.length spare after)
      (Overflows whole)

/-- With so many steps, a factor that is due is taken, or it is one too many. -/
def FactorRestores (steps : Nat) : Prop :=
  ∀ (whole rest : List Token) (taken : List Kind) (recognizer : Recognizer) (depth spare : Nat),
    Recovering whole recognizer depth taken rest (spare + 1) →
    Awaits .program .factor depth taken → depth ≤ maxDepth → 2 * rest.length + 1 ≤ steps →
    (factor steps).Ends recognizer
      (fun _ after => Restores whole .factor depth taken rest.length spare after) (Overflows whole)

variable {whole rest : List Token} {recognizer : Recognizer} {depth spare steps : Nat}
  {taken : List Kind} {token : Token}

/-- An expression is a factor with the operators behind it. -/
theorem expressionRestores_succ (operationsRestore : OperationsRestore steps)
    (factorRestores : FactorRestores steps) : ExpressionRestores (steps + 1) := by
  intro least whole rest taken recognizer depth spare recovering awaits shallow enough
  refine (factorRestores whole rest taken recognizer depth spare recovering awaits.factor shallow
    (by omega)).bind ?_
  rintro _ after ⟨nesting, value, left, bound, derives, recovering⟩
  refine (operationsRestore least nesting whole left taken value after depth spare recovering awaits
    derives.factor shallow (by omega)).mono ?_ fun _ _ overflows => overflows
  rintro _ after ⟨nesting, value, last, shorter, derives, recovering⟩
  exact ⟨nesting, value, last, by omega, derives, recovering⟩

/-- An operator that is taken pays for the operand that may be missing behind it. -/
theorem operationsRestore_succ (expressionRestores : ExpressionRestores steps)
    (operationsRestore : OperationsRestore steps) : OperationsRestore (steps + 1) := by
  intro least nesting whole rest taken value recognizer depth spare recovering awaits derives
    shallow enough
  obtain ⟨token, rest, rfl⟩ := recovering.exists_cons
  refine recovering.peek.bind ?_
  rintro _ after ⟨rfl, recovering⟩
  have here : Restores whole .expression depth taken (token :: rest).length spare after :=
    ⟨nesting, value, token :: rest, le_rfl, derives, recovering⟩
  cases found : precedence? token.kind with
  | none => exact Ends.pure here
  | some precedence =>
    refine Ends.ite (fun _ => Ends.pure here) fun _ => ?_
    have binary := mem_operatorKinds found
    have going : token.kind ≠ .eof := ne_of_mem_of_not_mem binary (by decide)
    simp only [List.length_cons] at enough
    refine (recovering.consume going).bind fun _ after recovering => ?_
    refine (expressionRestores (precedence + 1) whole rest _ after depth (spare + 3) recovering
      (by simpa using awaits.operation derives binary) shallow (by omega)).bind ?_
    rintro _ after ⟨inner, operand, left, bound, right, recovering⟩
    have joined : Recovering whole after depth (taken ++ (value ++ [token.kind] ++ operand)) left
        spare := by
      simpa using recovering.mono (Nat.le_add_right spare 3)
    refine (operationsRestore least _ whole left taken _ after depth spare joined awaits
      (derives.operation binary right) shallow (by omega)).mono ?_ fun _ _ overflows => overflows
    rintro _ after ⟨nesting, value, last, shorter, derives, recovering⟩
    exact ⟨nesting, value, last, by simp only [List.length_cons]; omega, derives, recovering⟩

/-- Behind an opening parenthesis, which pays for the operand and for the closing one, an expression
is taken and closed. -/
theorem restores_group (expressionRestores : ExpressionRestores steps)
    (parenthesis : token.kind = openKind)
    (recovering : Recovering whole recognizer (depth + 1) taken (token :: rest) (spare + 1))
    (awaits : Awaits .program .factor depth taken) (room : depth + 1 ≤ maxDepth)
    (enough : 2 * rest.length + 2 ≤ steps) :
    (do
      let _ ← Recognizer.consume
      expression 0 steps
      let _ ← Recognizer.matchKind closeKind : Rule Unit).Ends recognizer
      (fun _ after => Restores whole .factor (depth + 1) taken (token :: rest).length spare after)
      (Overflows whole) := by
  refine (recovering.consume (by rw [parenthesis]; decide)).bind fun _ after recovering => ?_
  rw [parenthesis] at recovering
  refine (expressionRestores 0 whole rest _ after (depth + 1) (spare + 4) recovering awaits.group
    room enough).bind ?_
  rintro _ after ⟨nesting, value, left, bound, derives, recovering⟩
  refine (recovering.matchKind (by decide)).bind ?_
  rintro _ after ⟨last, shorter, recovering⟩
  refine ⟨nesting + 1, [openKind] ++ value ++ [closeKind], last, ?_, derives.group, ?_⟩
  · simp only [List.length_cons]
    omega
  · simpa using recovering.mono (Nat.le_add_right spare 3)

/-- Behind a sign a factor is taken. -/
theorem restores_negation (factorRestores : FactorRestores steps) (sign : token.kind = minusKind)
    (recovering : Recovering whole recognizer (depth + 1) taken (token :: rest) (spare + 1))
    (awaits : Awaits .program .factor depth taken) (room : depth + 1 ≤ maxDepth)
    (enough : 2 * rest.length + 1 ≤ steps) :
    (do
      let _ ← Recognizer.consume
      factor steps : Rule Unit).Ends recognizer
      (fun _ after => Restores whole .factor (depth + 1) taken (token :: rest).length spare after)
      (Overflows whole) := by
  refine (recovering.consume (by rw [sign]; decide)).bind fun _ after recovering => ?_
  rw [sign] at recovering
  refine (factorRestores whole rest _ after (depth + 1) (spare + 4) recovering awaits.negation room
    enough).mono ?_ fun _ _ overflows => overflows
  rintro _ after ⟨nesting, inner, left, bound, derives, recovering⟩
  refine ⟨nesting + 1, [minusKind] ++ inner, left, ?_, derives.negation, ?_⟩
  · simp only [List.length_cons]
    omega
  · simpa using recovering.mono (Nat.le_add_right spare 4)

/-- A rule that is run as a factor fails where too many are open, and takes else what it takes with
one factor more open. -/
theorem restores_nestFactor {body : Rule Unit} {most : Nat}
    (recovering : Recovering whole recognizer depth taken rest (spare + 1))
    (awaits : Awaits .program .factor depth taken) (shallow : depth ≤ maxDepth)
    (inner : ∀ opened, depth + 1 ≤ maxDepth →
      Recovering whole opened (depth + 1) taken rest (spare + 1) →
      body.Ends opened (fun _ after => Restores whole .factor (depth + 1) taken most spare after)
        (Overflows whole)) :
    (nestFactor body).Ends recognizer
      (fun _ after => Restores whole .factor depth taken most spare after) (Overflows whole) := by
  obtain ⟨token, rest, rfl⟩ := recovering.exists_cons
  obtain ⟨before, reported, split, stands, repaired, paid⟩ := id recovering
  have opened := stands.depth
  refine Ends.ite (fun full => ?_) fun free => ?_
  · have same : depth = maxDepth := by omega
    subst same
    refine stands.lookahead.bind ?_
    rintro _ after ⟨rfl, stands⟩
    exact ⟨maxDepth, taken, _, rest, spare + 1, rfl,
      ⟨before, reported, split, stands, repaired, paid⟩, awaits⟩
  · have inside : Recovering whole { recognizer with depth := recognizer.depth + 1 } (depth + 1)
        taken (token :: rest) (spare + 1) := opened ▸ recovering.of_depth _
    exact Ends.nested ((inner _ (by omega) inside).mono (fun _ _ restores => restores.close)
      fun _ _ overflows => overflows.of_depth _)

/-- A factor is taken as its first token demands, and where none can start it is made up. -/
theorem factorRestores_succ (expressionRestores : ExpressionRestores steps)
    (factorRestores : FactorRestores steps) : FactorRestores (steps + 1) := by
  intro whole rest taken recognizer depth spare recovering awaits shallow enough
  refine restores_nestFactor recovering awaits shallow fun _ room inside => ?_
  obtain ⟨token, rest, rfl⟩ := inside.exists_cons
  simp only [List.length_cons] at enough
  refine inside.peek.bind ?_
  rintro _ after ⟨rfl, inside⟩
  refine Ends.ite (fun single => ?_) fun several => Ends.ite (fun parenthesis => ?_) fun other =>
    Ends.ite (fun sign => ?_) fun unusable => ?_
  · have operand : token.kind ∈ operandKinds := by simpa [operandKinds] using single
    refine (inside.consume (ne_of_mem_of_not_mem operand (by decide))).bind fun _ after kept => ?_
    exact Ends.pure ⟨1, [token.kind], rest, by simp, .operand operand, kept.mono (by omega)⟩
  · exact restores_group expressionRestores parenthesis inside awaits room (by omega)
  · exact restores_negation factorRestores sign inside awaits room (by omega)
  · refine (inside.operand awaits).mono ?_ fun _ _ bad => bad
    rintro _ after ⟨left, bound, recovering⟩
    exact ⟨1, [nameKind], left, bound, .operand (by decide), recovering⟩

/-- Twice as many steps as there are tokens to come, and two more, are enough. -/
theorem expressionRestores (steps : Nat) :
    ExpressionRestores steps ∧ OperationsRestore steps ∧ FactorRestores steps := by
  induction steps with
  | zero =>
    refine ⟨?_, ?_, ?_⟩
    · intro _ _ _ _ _ _ _ _ _ _ enough
      omega
    · intro _ _ _ _ _ _ _ _ _ _ _ _ _ enough
      omega
    · intro _ _ _ _ _ _ _ _ _ enough
      omega
  | succ steps ih =>
    obtain ⟨expression, operations, factor⟩ := ih
    exact ⟨expressionRestores_succ operations factor, operationsRestore_succ expression operations,
      factorRestores_succ expression factor⟩

/-! ## Statements -/

/-- Behind what leads in the expression of a statement, the expression and the end of the statement
are taken, for which two reports are enough beside those that tokens pay for. -/
theorem restores_value {lead : List Kind} (leads : Leads lead)
    (recovering : Recovering whole recognizer depth (taken ++ lead) rest (spare + 2))
    (awaits : Awaits .program .statement depth taken) (shallow : depth ≤ maxDepth)
    (enough : 2 * rest.length + 2 ≤ steps) :
    (do expression 0 steps; let _ ← Recognizer.matchKind semicolonKind : Rule Unit).Ends recognizer
      (fun _ after => Restores whole .statement depth taken rest.length spare after)
      (Overflows whole) := by
  refine ((expressionRestores steps).1 0 whole rest _ recognizer depth (spare + 1) recovering
    (leads.awaits awaits) shallow enough).bind ?_
  rintro _ after ⟨nesting, value, left, bound, derives, recovering⟩
  refine (recovering.matchKind (by decide)).bind ?_
  rintro _ after ⟨last, shorter, recovering⟩
  exact Ends.pure ⟨nesting, lead ++ value ++ [semicolonKind], last, by omega,
    leads.derives derives, by simpa using recovering⟩

/-- A statement whose first word stands next is taken. The word pays for everything else that may
be missing: a name, a sign, an operand and the end. -/
theorem restores_statement (starts : token.kind ∈ statementStart)
    (recovering : Recovering whole recognizer depth taken (token :: rest) spare)
    (awaits : Awaits .program .statement depth taken) (shallow : depth ≤ maxDepth)
    (enough : 2 * rest.length + 2 ≤ steps) :
    (statement steps).Ends recognizer
      (fun _ after => Restores whole .statement depth taken rest.length spare after)
      (Overflows whole) := by
  refine recovering.peek.bind ?_
  rintro _ after ⟨rfl, recovering⟩
  refine Ends.ite (fun assignment => ?_) fun other => Ends.ite (fun output => ?_) fun neither => ?_
  · refine (recovering.matchKind_of_eq assignment (by decide)).bind fun _ after recovering => ?_
    refine (Recovering.matchKind recovering (by decide)).bind ?_
    rintro _ after ⟨behindName, shorter, recovering⟩
    refine (Recovering.matchKind recovering (by decide)).bind ?_
    rintro _ after ⟨left, shorter', recovering⟩
    refine (restores_value (.inl rfl) (by simpa using recovering) awaits shallow (by omega)).mono
      ?_ fun _ _ overflows => overflows
    rintro _ after ⟨nesting, kinds, last, bound, derives, recovering⟩
    exact ⟨nesting, kinds, last, by omega, derives, recovering⟩
  · refine (recovering.matchKind_of_eq output (by decide)).bind fun _ after recovering => ?_
    exact restores_value (.inr rfl) (recovering.mono (by omega)) awaits shallow enough
  · simp [statementStart, other, neither] at starts

/-- A recovering run has taken its whole text for a program and stands at the end token. -/
def Completed (whole : List Token) (after : Recognizer) : Prop :=
  ∃ taken token, token.isEof = true ∧ Recovering whole after 0 taken [token] 0 ∧
    Derivable .program taken

/-- Statements are taken up to the end, in no more turns than there are tokens to come. -/
theorem restores_statements {turns : Nat} (recovering : Recovering whole recognizer 0 taken rest 0)
    (awaits : Awaits .program .program 0 taken) (enough : 2 * rest.length + 2 ≤ steps)
    (patient : rest.length ≤ turns) :
    (statements steps turns).Ends recognizer (fun _ after => Completed whole after)
      (Overflows whole) := by
  induction turns generalizing taken rest recognizer with
  | zero =>
    obtain ⟨token, left, rfl⟩ := recovering.exists_cons
    simp at patient
  | succ turns ih =>
    obtain ⟨token, rest, rfl⟩ := recovering.exists_cons
    simp only [List.length_cons] at enough patient
    refine recovering.peek.bind ?_
    rintro _ after ⟨rfl, recovering⟩
    refine Ends.ite (fun starts => ?_) fun other => Ends.ite (fun ends => ?_) fun going => ?_
    · refine (restores_statement starts recovering awaits.statement (Nat.zero_le _)
        (by omega)).bind ?_
      rintro _ after ⟨nesting, kinds, left, shorter, derives, recovering⟩
      exact ih recovering (awaits.append derives) (by omega) (by omega)
    · obtain ⟨before, reported, -, stands, -, -⟩ := id recovering
      have finished : token.isEof = true := by simp [Token.isEof, ends]
      obtain rfl := stands.shown.terminated_tokens.eq_singleton finished
      refine Ends.pure ⟨taken, token, finished, recovering, ?_⟩
      simpa using awaits.derivable rfl .empty rfl
    · refine (recovering.skip awaits _ ?_).bind ?_
      · simpa [statementStart, statementFollow, going] using other
      · rintro _ after ⟨left, shorter, recovering⟩
        exact ih recovering awaits (by omega) (by omega)

/-- The start rule takes its text for a program, unless a factor is one too many. -/
theorem restores_startRule (recovering : Recovering whole recognizer 0 [] whole 0) :
    startRule.Ends recognizer (fun _ after => Completed whole after) (Overflows whole) := by
  have room : whole.length ≤ recognizer.outstanding := by
    obtain ⟨before, reported, -, stands, -, -⟩ := recovering
    exact stands.shown.length_le
  refine ends_bound_bind ((restores_statements recovering .start (by omega) (by omega)).bind ?_)
  rintro _ after ⟨taken, token, ends, ⟨before, reported, split, stands, repaired, paid⟩, derivable⟩
  have kind : token.kind = .eof := by simpa [Token.isEof] using ends
  have matched : (Recognizer.matchKind .eof).Ends after
      (fun _ after => Completed whole after) (Overflows whole) := by
    rw [← kind]
    refine stands.matchKind_of_eq.mono (fun _ after found => ?_) fun _ _ bad => bad
    have stays : after.Stands (.recovering reported) 0 [token] := by simpa [ends] using found.2
    exact ⟨taken, token, ends, ⟨before, reported, split, stays, repaired, paid⟩, derivable⟩
  exact matched.bind fun _ _ completed => Ends.pure completed

/-! ## The whole run -/

/-- A recovering call of the start rule on a fresh parser completes its text, or a factor is one too
many. -/
theorem invoke_startRule_recovering (source : TokenSource) :
    let run := (grammar.parserUnder .recover source).invoke "startRule"
    (run.1 = .ok () ∧ Completed source.visible run.2.state) ∨
      ∃ failure, run.1 = .error failure ∧ Overflows source.visible failure run.2.state := by
  intro run
  have recovering : Recovering source.visible (grammar.parserUnder .recover source).state 0 []
      source.visible 0 :=
    ⟨[], #[], rfl, ⟨rfl, rfl, TokenBuffer.shows_ofSource source⟩, .start, Nat.zero_le _⟩
  exact (grammar.parserUnder .recover source).invoke_of_ends "startRule"
    (restores_startRule recovering)

/-- The tokens consumed before the next one are among those of the source that do not end it. -/
theorem length_le_kinds {source : TokenSource} {before rest : List Token} {token : Token}
    (split : source.visible = before ++ token :: rest) :
    before.length ≤ source.kinds.length := by
  have terminated := (TokenBuffer.shows_ofSource source).terminated_tokens
  rw [split] at terminated
  rw [TokenSource.kinds, split, terminated.filter_append]
  simp

/-- The start rule, called under the recovering strategy on any source, finishes. It is never
cancelled and never breaks off. It fails only in front of a factor that is due while as many are
open as may be, in the text that it takes its own for, and returns otherwise at the end token,
having taken its text for a program. Either way it reports at most four errors for each token before
the end. -/
theorem startRule_recovers (source : TokenSource) :
    let run := (grammar.parserUnder .recover source).invoke "startRule"
    let next := (run.2.state.input.lookahead 1).1
    (∀ cause, run.1 ≠ .error (.cancelled cause)) ∧
      (∀ crash, run.1 ≠ .error (.crashed crash)) ∧
      (∀ message, run.1 = .error (.internal message) →
        ∃ before taken rest, source.visible = before ++ next :: rest ∧
          Repaired before taken run.2.errors.size ∧ Awaits .program .factor maxDepth taken ∧
          tooDeep next.position.line = .internal message) ∧
      (run.1 = .ok () → next.isEof = true ∧
        ∃ before taken, source.visible = before ++ [next] ∧
          Repaired before taken run.2.errors.size ∧ Derivable .program taken) ∧
      run.2.errors.size ≤ 4 * source.kinds.length := by
  intro run next
  rcases invoke_startRule_recovering source with
    ⟨returned, completed⟩ | ⟨failure, failed, overflows⟩
  · change run.1 = .ok () at returned
    obtain ⟨taken, token, ends, ⟨before, reported, split, stands, repaired, paid⟩, derivable⟩ :=
      completed
    have shown : next = token := by simpa using (stands.shown.lookahead 1).1.symm
    have errors : run.2.errors = reported := by
      rw [Parser.errors, stands.strategy]
      rfl
    have bound := length_le_kinds split
    rw [returned, errors, shown]
    refine ⟨?_, ?_, ?_, fun _ => ⟨ends, before, taken, split, repaired, derivable⟩, by omega⟩
    · intro cause wrong
      cases wrong
    · intro crash wrong
      cases wrong
    · intro message wrong
      cases wrong
  · change run.1 = .error failure at failed
    obtain ⟨depth, taken, token, rest, spare, rfl, recovering, awaits⟩ := overflows
    obtain ⟨before, reported, split, stands, repaired, paid⟩ := recovering
    have shown : next = token := by simpa using (stands.shown.lookahead 1).1.symm
    have errors : run.2.errors = reported := by
      rw [Parser.errors, stands.strategy]
      rfl
    have bound := length_le_kinds split
    rw [failed, errors, shown]
    refine ⟨?_, ?_, ?_, ?_, by omega⟩
    · intro cause wrong
      cases wrong
    · intro crash wrong
      cases wrong
    · intro message same
      exact ⟨before, taken, rest, split, repaired, awaits, Except.error.inj same⟩
    · intro wrong
      cases wrong

/-- The bound is reached: a keyword alone lacks a name, a sign, a factor and a semicolon. -/
example :
    let source := TokenSource.script "keyword" [Token.new letKind "let" Position.start]
    let run := (grammar.parserUnder .recover source).invoke "startRule"
    source.kinds.length = 1 ∧ run.2.errors.size = 4 := by
  decide +kernel

end Conformance.Snafu
