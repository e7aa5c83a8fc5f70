import Conformance.Proofs.Snafu.Phase

/-!
# Expectations

Where a rule of Snafu finds a token that it cannot use, it names the kinds that would have been
accepted. Such an expectation is right when every kind named can come next after what has been read
and the kind found cannot. Each place at which the rules may stop has a right expectation.
-/

namespace Conformance.Snafu

/-- An expectation that is right in a text of `goal`: what has been read can be completed to one,
each of the kinds expected can come next, and the one found cannot. -/
structure Expectation (goal : Symbol) (before expected : List Kind) (found : Kind) : Prop where
  /-- What has been read is a viable prefix. -/
  viable : Viable goal before
  /-- Every kind named can come next. -/
  sound : ∀ kind ∈ expected, CanFollow goal before kind
  /-- The kind found cannot. -/
  refused : ¬ CanFollow goal before found

/-- What has been read where statements are due is a program. -/
theorem Awaits.derivable {goal symbol : Symbol} {opened nesting : Nat} {before rest : List Kind}
    (awaits : Awaits goal symbol opened before) (due : symbol = .program)
    (derives : Derives .program nesting rest) (whole : goal = .program) :
    Derivable goal (before ++ rest) := by
  induction awaits generalizing nesting rest with
  | start => exact ⟨nesting, whole ▸ derives⟩
  | append program statement ih =>
    simpa using ih rfl (statement.append derives)
  | statement | assign | print | operation | factor | group | negation => nomatch due

/-- A statement is not empty. -/
theorem Derives.statement_ne_nil {nesting : Nat} {kinds : List Kind}
    (derives : Derives .statement nesting kinds) : kinds ≠ [] := by
  cases derives with
  | assign => simp
  | print => simp

/-- Statements are due in programs and statements only. -/
theorem Awaits.final_eq {goal symbol : Symbol} {opened : Nat} {before : List Kind}
    (awaits : Awaits goal symbol opened before) (due : symbol = .program ∨ symbol = .statement) :
    Phase.final goal = .statement := by
  induction awaits with
  | start =>
    rcases due with rfl | rfl
    · rfl
    · rfl
  | append program statement ih => exact ih (.inl rfl)
  | statement program ih => exact ih (.inl rfl)
  | assign | print | operation | factor | group | negation => simp at due

/-- An operator is a kind that has a precedence. -/
theorem precedence?_eq_none_iff {kind : Kind} :
    precedence? kind = none ↔ kind ∉ operatorKinds := by
  unfold precedence? operatorKinds
  simp only [List.mem_cons, List.not_mem_nil, or_false, not_or]
  constructor
  · intro none
    split at none
    · cases none
    · rename_i additive
      split at none
      · cases none
      · rename_i multiplicative
        exact ⟨fun star => multiplicative (.inl star), fun slash => multiplicative (.inr slash),
          fun plus => additive (.inl plus), fun minus => additive (.inr minus)⟩
  · rintro ⟨star, slash, plus, minus⟩
    simp [star, slash, plus, minus]

/-- A kind with a precedence is an operator. -/
theorem mem_operatorKinds {kind : Kind} {precedence : Nat}
    (found : precedence? kind = some precedence) : kind ∈ operatorKinds := by
  refine Decidable.byContradiction fun other => ?_
  rw [precedence?_eq_none_iff.2 other] at found
  cases found

variable {goal : Symbol} {opened nesting : Nat} {before value : List Kind} {found : Kind}

/-- Inside a text, the one kind that goes on with what has been read is rightly expected. -/
theorem expectation_single {phase : Phase} {due : Kind}
    (viable : Viable goal (before ++ [due])) (going : due ≠ .eof)
    (reached : Phase.reach none (.initial goal) before = some phase)
    (refused : Phase.advance none phase found = none) (inside : phase ≠ .final goal) :
    Expectation goal before [due] found where
  viable := viable.of_append
  sound kind named := by
    obtain rfl := List.mem_singleton.1 named
    rw [CanFollow, if_neg going]
    exact viable
  refused := Phase.not_canFollow reached refused fun _ => inside

/-- Where statements are due, one of the words that start a statement is expected, or the end. -/
theorem expectation_program (awaits : Awaits .program .program opened before)
    (other : found ∉ statementStart ++ [.eof]) :
    Expectation .program before (statementStart ++ [.eof]) found := by
  obtain ⟨phase, reached, rfl, -⟩ := Phase.exists_phase_of_awaits awaits
  obtain ⟨nesting, kinds, derives⟩ := exists_derives .expression
  simp only [statementStart, List.cons_append, List.nil_append, List.mem_cons, List.not_mem_nil,
    or_false, not_or] at other
  refine ⟨awaits.viable_before, ?_, ?_⟩
  · intro kind named
    simp only [statementStart, List.cons_append, List.nil_append, List.mem_cons, List.not_mem_nil,
      or_false] at named
    rcases named with rfl | rfl | rfl
    · exact awaits.statement.canFollow derives.assign (by decide)
    · exact awaits.statement.canFollow derives.print (by decide)
    · rw [CanFollow, if_pos rfl]
      simpa using awaits.derivable rfl .empty rfl
  · refine Phase.not_canFollow reached ?_ fun ends => absurd ends other.2.2
    simp [Phase.advance, other.1, other.2.1]

/-- Before a statement that stands alone, one of the words that start it is expected. -/
theorem expectation_statement (other : found ∉ statementStart) :
    Expectation .statement [] statementStart found := by
  obtain ⟨nesting, kinds, derives⟩ := exists_derives .expression
  have awaits : Awaits .statement .statement 0 [] := .start
  simp only [statementStart, List.mem_cons, List.not_mem_nil, or_false, not_or] at other
  refine ⟨awaits.viable_before, ?_, fun follows => ?_⟩
  · intro kind named
    simp only [statementStart, List.mem_cons, List.not_mem_nil, or_false] at named
    rcases named with rfl | rfl
    · exact awaits.canFollow derives.assign (by decide)
    · exact awaits.canFollow derives.print (by decide)
  · unfold CanFollow at follows
    split at follows
    · obtain ⟨_, nothing⟩ := follows
      exact nothing.statement_ne_nil rfl
    · have start : Phase.reach none (.initial .statement) [] = some .statement := rfl
      refine Phase.not_viable_of_advance start ?_ follows
      simp [Phase.advance, other]

/-- Behind the word that starts an assignment a name is expected. -/
theorem expectation_name (awaits : Awaits goal .statement opened before)
    (other : found ≠ nameKind) : Expectation goal (before ++ [letKind]) [nameKind] found := by
  obtain ⟨nesting, kinds, derives⟩ := exists_derives .expression
  have viable : Viable goal
      (before ++ [letKind] ++ [nameKind] ++ ([assignKind] ++ kinds ++ [semicolonKind])) := by
    simpa using awaits.viable derives.assign
  have inside := awaits.final_eq (.inr rfl)
  exact expectation_single viable.of_append (by decide) awaits.reach_name
    (by simp [Phase.advance, other]) (inside ▸ nofun)

/-- Behind the name of an assignment its sign is expected. -/
theorem expectation_assign (awaits : Awaits goal .statement opened before)
    (other : found ≠ assignKind) :
    Expectation goal (before ++ [letKind, nameKind]) [assignKind] found := by
  obtain ⟨nesting, kinds, derives⟩ := exists_derives .expression
  have viable : Viable goal
      (before ++ [letKind, nameKind] ++ [assignKind] ++ (kinds ++ [semicolonKind])) := by
    simpa using awaits.viable derives.assign
  have inside := awaits.final_eq (.inr rfl)
  exact expectation_single viable.of_append (by decide) awaits.reach_assign
    (by simp [Phase.advance, other]) (inside ▸ nofun)

/-- Where a factor is due, the kinds that start one are expected. -/
theorem expectation_factor (awaits : Awaits goal .factor opened before)
    (other : found ∉ factorStart) : Expectation goal before factorStart found := by
  obtain ⟨phase, reached, signs, outer, rfl, -⟩ := Phase.exists_phase_of_awaits awaits
  obtain ⟨nesting, kinds, derives⟩ := exists_derives .expression
  obtain ⟨depth, inner, factor⟩ := exists_derives .factor
  simp only [factorStart, List.mem_cons, List.not_mem_nil, or_false, not_or] at other
  refine ⟨awaits.viable_before, ?_, ?_⟩
  · intro kind named
    simp only [factorStart, List.mem_cons, List.not_mem_nil, or_false] at named
    rcases named with rfl | rfl | rfl | rfl | rfl
    · exact awaits.canFollow (.operand (by decide)) (by decide)
    · exact awaits.canFollow (.operand (by decide)) (by decide)
    · exact awaits.canFollow (.operand (by decide)) (by decide)
    · exact awaits.canFollow derives.group (by decide)
    · exact awaits.canFollow factor.negation (by decide)
  · refine Phase.not_canFollow reached ?_ fun _ => Phase.operand_ne_final goal signs outer
    simp [Phase.advance, operandKinds, other]

/-- Behind an expression in parentheses, which no operator goes on with, they are to be closed. -/
theorem expectation_close (awaits : Awaits goal .factor opened before)
    (derives : Derives .expression nesting value) (ended : found ∉ operatorKinds)
    (other : found ≠ closeKind) :
    Expectation goal (before ++ [openKind] ++ value) [closeKind] found := by
  obtain ⟨outer, due, count⟩ := awaits.group.reach_value derives
  have viable : Viable goal (before ++ [openKind] ++ value ++ [closeKind]) := by
    simpa using awaits.viable derives.group
  cases outer with
  | nil => cases count
  | cons signs outer =>
    have inside : Phase.operator (signs :: outer) ≠ .final goal := by
      cases goal <;> exact nofun
    exact expectation_single viable (by decide) due (by simp [Phase.advance, ended, other]) inside

/-- Behind the expression of a statement, which no operator goes on with, the statement is to be
ended. -/
theorem expectation_semicolon (awaits : Awaits goal .statement opened before)
    {lead : List Kind} (leads : Leads lead) (derives : Derives .expression nesting value)
    (ended : found ∉ operatorKinds) (other : found ≠ semicolonKind) :
    Expectation goal (before ++ lead ++ value) [semicolonKind] found := by
  obtain ⟨outer, due, count⟩ := (leads.awaits awaits).reach_value derives
  have viable : Viable goal (before ++ lead ++ value ++ [semicolonKind]) := by
    simpa using awaits.viable (leads.derives derives)
  have inside := awaits.final_eq (.inr rfl)
  rw [awaits.reach_statement.2] at count
  cases outer with
  | nil =>
    exact expectation_single viable (by decide) due (by simp [Phase.advance, ended, other])
      (inside ▸ nofun)
  | cons signs outer =>
    rw [Phase.openFactors_cons] at count
    omega

end Conformance.Snafu
