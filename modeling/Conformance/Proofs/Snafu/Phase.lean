import Conformance.Proofs.Snafu.Syntax

/-!
# Phases of a program

Reading a program kind by kind from the left, what may come next depends on the phase: which symbol
is due, and how many signs and parentheses are open around it. Each kind takes a phase to one phase
at most. Derivations and points follow the phases, so a kind that the phase refuses can follow
nothing that leads there, and a derivation whose factors nest no deeper than a limit passes through
no phase in which a factor is due at the limit.
-/

namespace Conformance.Snafu

/-- What is due in a program that has been read up to some kind. -/
inductive Phase where
  /-- A statement, or the end. -/
  | statement
  /-- The name of an assignment. -/
  | name
  /-- The sign of an assignment. -/
  | assign
  /-- A factor behind some signs. Around it the parentheses in `outer` are open, each of them behind
  so many signs. -/
  | operand (signs : Nat) (outer : List Nat)
  /-- An operator, or what ends the expression. -/
  | operator (outer : List Nat)
  deriving Repr, DecidableEq

namespace Phase

/-- The factors that open parentheses and the signs before them make. -/
def openFactors : List Nat → Nat
  | [] => 0
  | signs :: outer => signs + 1 + openFactors outer

/-- As many factors are open as a limit allows, if there is one. -/
def isFull (limit : Option Nat) (opened : Nat) : Bool :=
  limit.any (· ≤ opened)

/-- Without a limit there is always room. -/
@[simp] theorem isFull_none (opened : Nat) : isFull none opened = false := rfl

/-- The phase after a kind. Where a factor is due at the limit, no kind is taken. -/
def advance (limit : Option Nat) : Phase → Kind → Option Phase
  | .statement, kind =>
    if kind = letKind then some .name
    else if kind = printKind then some (.operand 0 [])
    else none
  | .name, kind => if kind = nameKind then some .assign else none
  | .assign, kind => if kind = assignKind then some (.operand 0 []) else none
  | .operand signs outer, kind =>
    if isFull limit (signs + openFactors outer) then none
    else if kind ∈ operandKinds then some (.operator outer)
    else if kind = openKind then some (.operand 0 (signs :: outer))
    else if kind = minusKind then some (.operand (signs + 1) outer)
    else none
  | .operator outer, kind =>
    if kind ∈ operatorKinds then some (.operand 0 outer)
    else
      match outer with
      | [] => if kind = semicolonKind then some .statement else none
      | _ :: outer => if kind = closeKind then some (.operator outer) else none

section

variable {limit : Option Nat} {signs : Nat} {outer : List Nat} {kind : Kind}

/-- An assignment starts with `let`, and a name is due. -/
@[simp] theorem advance_statement_letKind : advance limit .statement letKind = some .name := rfl

/-- An output starts with `print`, and its value is due. -/
@[simp] theorem advance_statement_printKind :
    advance limit .statement printKind = some (.operand 0 []) := rfl

/-- Behind the name, the sign of the assignment is due. -/
@[simp] theorem advance_name_nameKind : advance limit .name nameKind = some .assign := rfl

/-- Behind that sign, the value is due. -/
@[simp] theorem advance_assign_assignKind :
    advance limit .assign assignKind = some (.operand 0 []) := rfl

/-- Behind an operand, an operator is due. -/
@[simp] theorem advance_operand_of_mem (free : isFull limit (signs + openFactors outer) = false)
    (single : kind ∈ operandKinds) :
    advance limit (.operand signs outer) kind = some (.operator outer) := by
  simp [advance, free, single]

/-- A parenthesis opens where a factor is due, and a factor in it is due. -/
@[simp] theorem advance_operand_openKind (free : isFull limit (signs + openFactors outer) = false) :
    advance limit (.operand signs outer) openKind = some (.operand 0 (signs :: outer)) := by
  rw [advance, free]
  rfl

/-- A minus sign stands where a factor is due, and the factor is still due. -/
@[simp] theorem advance_operand_minusKind
    (free : isFull limit (signs + openFactors outer) = false) :
    advance limit (.operand signs outer) minusKind = some (.operand (signs + 1) outer) := by
  rw [advance, free]
  rfl

/-- Behind an operator, its right operand is due. -/
@[simp] theorem advance_operator_of_mem (binary : kind ∈ operatorKinds) :
    advance limit (.operator outer) kind = some (.operand 0 outer) := by
  simp [advance, binary]

/-- Outside of parentheses, a semicolon ends the statement. -/
@[simp] theorem advance_operator_semicolonKind :
    advance limit (.operator []) semicolonKind = some .statement := rfl

/-- Inside of parentheses, the innermost one closes. -/
@[simp] theorem advance_operator_closeKind :
    advance limit (.operator (signs :: outer)) closeKind = some (.operator outer) := rfl

end

/-- The phase after some kinds. -/
def reach (limit : Option Nat) (phase : Phase) (kinds : List Kind) : Option Phase :=
  kinds.foldlM (advance limit) phase

/-- No kinds leave the phase as it is. -/
@[simp] theorem reach_nil (limit : Option Nat) (phase : Phase) :
    reach limit phase [] = some phase := rfl

/-- Kinds are taken one after the other. -/
@[simp] theorem reach_cons (limit : Option Nat) (phase : Phase) (kind : Kind) (kinds : List Kind) :
    reach limit phase (kind :: kinds) =
      (advance limit phase kind).bind fun next => reach limit next kinds :=
  rfl

/-- The phase after further kinds is reached from the one before them. -/
theorem reach_append (limit : Option Nat) (phase : Phase) (first rest : List Kind) :
    reach limit phase (first ++ rest) =
      (reach limit phase first).bind fun next => reach limit next rest := by
  simp [reach, List.foldlM_append]

/-- Outside of parentheses no factor is open. -/
@[simp] theorem openFactors_nil : openFactors [] = 0 := rfl

/-- A parenthesis opens one factor, and each sign before it another. -/
@[simp] theorem openFactors_cons (signs : Nat) (outer : List Nat) :
    openFactors (signs :: outer) = signs + 1 + openFactors outer := rfl

/-! ## Derivations follow the phases -/

/-- So many factors fit under a limit. -/
def Fits (limit : Option Nat) (count : Nat) : Prop :=
  ∀ most, limit = some most → count ≤ most

/-- Where factors fit, fewer of them do. -/
theorem Fits.mono {limit : Option Nat} {less more : Nat} (fits : Fits limit more)
    (bound : less ≤ more) : Fits limit less :=
  fun most limited => Nat.le_trans bound (fits most limited)

/-- Where one factor more fits, the limit has not been reached. -/
theorem Fits.isFull_eq {limit : Option Nat} {opened count : Nat}
    (fits : Fits limit (opened + (count + 1))) : isFull limit opened = false := by
  cases limit with
  | none => rfl
  | some most =>
    have bound := fits most rfl
    simp only [isFull, Option.any_some, decide_eq_false_iff_not]
    omega

/-- Some kinds lead through the phases of a symbol, wherever so many factors fit. -/
def Crosses (limit : Option Nat) (nesting : Nat) (kinds : List Kind) : Symbol → Prop
  | .program => Fits limit nesting → reach limit .statement kinds = some .statement
  | .statement => Fits limit nesting → reach limit .statement kinds = some .statement
  | .expression => ∀ outer, Fits limit (openFactors outer + nesting) →
    reach limit (.operand 0 outer) kinds = some (.operator outer)
  | .factor => ∀ signs outer, Fits limit (signs + openFactors outer + nesting) →
    reach limit (.operand signs outer) kinds = some (.operator outer)

/-- Kinds that derive from a symbol lead through its phases. -/
theorem crosses_of_derives (limit : Option Nat) {symbol : Symbol} {nesting : Nat}
    {kinds : List Kind} (derives : Derives symbol nesting kinds) :
    Crosses limit nesting kinds symbol := by
  induction derives with
  | empty => exact fun _ => rfl
  | @append inner outer first rest statement program first_ih rest_ih =>
    intro fits
    have start := first_ih (fits.mono (Nat.le_max_left inner outer))
    have finish := rest_ih (fits.mono (Nat.le_max_right inner outer))
    simp [reach_append, start, finish]
  | @assign nesting value expression ih =>
    intro fits
    have inner := ih [] (by simpa using fits)
    simp [reach_append, inner]
  | @print nesting value expression ih =>
    intro fits
    have inner := ih [] (by simpa using fits)
    simp [reach_append, inner]
  | @operation inner outer left right operator first binary second first_ih second_ih =>
    intro around fits
    have start := first_ih around (fits.mono (by omega))
    have finish := second_ih around (fits.mono (by omega))
    simp [reach_append, start, finish, binary]
  | @factor nesting kinds factor ih =>
    intro outer fits
    exact ih 0 outer (by simpa using fits)
  | @operand kind single =>
    intro signs outer fits
    have free : isFull limit (signs + openFactors outer) = false := fits.isFull_eq
    simp [free, single]
  | @group nesting kinds expression ih =>
    intro signs outer fits
    have free : isFull limit (signs + openFactors outer) = false := fits.isFull_eq
    have inner := ih (signs :: outer) (by
      rw [openFactors_cons]
      exact fits.mono (by omega))
    simp [reach_append, free, inner]
  | @negation nesting kinds factor ih =>
    intro signs outer fits
    have free : isFull limit (signs + openFactors outer) = false := fits.isFull_eq
    have inner := ih (signs + 1) outer (fits.mono (by omega))
    simp [free, inner]

/-- Without a limit everything fits. -/
theorem fits_none (count : Nat) : Fits none count :=
  fun _ limited => nomatch limited

/-- The phase before a text of a symbol. -/
def initial : Symbol → Phase
  | .program | .statement => .statement
  | .expression | .factor => .operand 0 []

/-- The phase behind a text of a symbol. -/
def final : Symbol → Phase
  | .program | .statement => .statement
  | .expression | .factor => .operator []

/-- Behind a text no operand is due. -/
theorem operand_ne_final (goal : Symbol) (signs : Nat) (outer : List Nat) :
    Phase.operand signs outer ≠ final goal := by
  cases goal <;> exact nofun

/-- Wherever so many factors fit, a text leads from the phase before it to the one behind it. -/
theorem reach_of_derives {limit : Option Nat} {goal : Symbol} {nesting : Nat} {kinds : List Kind}
    (derives : Derives goal nesting kinds) (fits : Fits limit nesting) :
    reach limit (initial goal) kinds = some (final goal) := by
  have crossed := crosses_of_derives limit derives
  cases goal with
  | program => exact crossed fits
  | statement => exact crossed fits
  | expression => exact crossed [] (by simpa using fits)
  | factor => exact crossed 0 [] (by simpa using fits)

/-- A text leads from the phase before it to the one behind it. -/
theorem reach_of_derivable {goal : Symbol} {kinds : List Kind} (derivable : Derivable goal kinds) :
    reach none (initial goal) kinds = some (final goal) := by
  obtain ⟨nesting, derives⟩ := derivable
  exact reach_of_derives derives (fits_none nesting)

/-! ## Points follow the phases -/

/-- A phase in which a symbol is due inside so many factors. -/
def Expects (phase : Phase) (opened : Nat) : Symbol → Prop
  | .program => phase = .statement ∧ opened = 0
  | .statement => phase = .statement ∧ opened = 0
  | .expression => ∃ outer, phase = .operand 0 outer ∧ openFactors outer = opened
  | .factor => ∃ signs outer, phase = .operand signs outer ∧ signs + openFactors outer = opened

/-- A symbol is due in the phase before its text. -/
theorem expects_initial (goal : Symbol) : (initial goal).Expects 0 goal := by
  cases goal with
  | program => exact ⟨rfl, rfl⟩
  | statement => exact ⟨rfl, rfl⟩
  | expression => exact ⟨[], rfl, rfl⟩
  | factor => exact ⟨0, [], rfl, rfl⟩

/-- At a point of a text, the kinds read lead to a phase in which the symbol is due. -/
theorem exists_phase_of_awaits {goal symbol : Symbol} {opened : Nat} {before : List Kind}
    (awaits : Awaits goal symbol opened before) :
    ∃ phase, reach none (initial goal) before = some phase ∧ phase.Expects opened symbol := by
  induction awaits with
  | start => exact ⟨initial goal, rfl, expects_initial goal⟩
  | @append opened nesting before first program statement ih =>
    obtain ⟨phase, reached, rfl, rfl⟩ := ih
    have crossed := crosses_of_derives none statement (fits_none nesting)
    exact ⟨.statement, by simp [reach_append, reached, crossed], rfl, rfl⟩
  | statement program ih => exact ih
  | assign statement ih =>
    obtain ⟨phase, reached, rfl, rfl⟩ := ih
    exact ⟨.operand 0 [], by simp [reach_append, reached], [], rfl, rfl⟩
  | print statement ih =>
    obtain ⟨phase, reached, rfl, rfl⟩ := ih
    exact ⟨.operand 0 [], by simp [reach_append, reached], [], rfl, rfl⟩
  | @operation opened nesting before left operator expression first binary ih =>
    obtain ⟨phase, reached, outer, rfl, count⟩ := ih
    have crossed := crosses_of_derives none first outer (fits_none _)
    exact ⟨.operand 0 outer, by simp [reach_append, reached, crossed, binary], outer, rfl, count⟩
  | factor expression ih =>
    obtain ⟨phase, reached, outer, rfl, count⟩ := ih
    exact ⟨.operand 0 outer, reached, 0, outer, rfl, by simpa using count⟩
  | group factor ih =>
    obtain ⟨phase, reached, signs, outer, rfl, count⟩ := ih
    refine ⟨.operand 0 (signs :: outer), ?_, signs :: outer, rfl, ?_⟩
    · simp [reach_append, reached, advance_operand_openKind (isFull_none _)]
    · rw [openFactors_cons]
      omega
  | negation factor ih =>
    obtain ⟨phase, reached, signs, outer, rfl, count⟩ := ih
    refine ⟨.operand (signs + 1) outer, ?_, signs + 1, outer, rfl, by omega⟩
    simp [reach_append, reached, advance_operand_minusKind (isFull_none _)]

/-! ## What a phase refuses -/

/-- A kind that the phase of a prefix refuses makes it no viable prefix any more. -/
theorem not_viable_of_advance {goal : Symbol} {before : List Kind} {phase : Phase} {kind : Kind}
    (reached : reach none (initial goal) before = some phase)
    (refused : advance none phase kind = none) : ¬ Viable goal (before ++ [kind]) := by
  rintro ⟨rest, derivable⟩
  have finished := reach_of_derivable derivable
  simp [reach_append, reached, refused] at finished

/-- A kind that the phase of a prefix refuses cannot come next. For the end of the input, the phase
has to be another one than that behind a text. -/
theorem not_canFollow {goal : Symbol} {before : List Kind} {phase : Phase} {kind : Kind}
    (reached : reach none (initial goal) before = some phase)
    (refused : advance none phase kind = none) (unfinished : kind = .eof → phase ≠ final goal) :
    ¬ CanFollow goal before kind := by
  unfold CanFollow
  split
  · rename_i ends
    intro derivable
    have finished := reach_of_derivable derivable
    rw [reached] at finished
    exact unfinished ends (Option.some.inj finished)
  · exact not_viable_of_advance reached refused

/-- What is read within a limit is read without one in the same way. -/
theorem reach_none_of_reach {limit : Option Nat} {phase after : Phase} {kinds : List Kind}
    (reached : reach limit phase kinds = some after) : reach none phase kinds = some after := by
  induction kinds generalizing phase with
  | nil => exact reached
  | cons kind kinds ih =>
    rw [reach_cons, Option.bind_eq_some_iff] at reached
    obtain ⟨next, advanced, further⟩ := reached
    have unlimited : advance none phase kind = some next := by
      cases phase with
      | operand signs outer =>
        unfold advance at advanced ⊢
        cases full : isFull limit (signs + openFactors outer) with
        | true => simp [full] at advanced
        | false => simpa [full] using advanced
      | statement => exact advanced
      | name => exact advanced
      | assign => exact advanced
      | operator outer => exact advanced
    rw [reach_cons, unlimited]
    exact ih further

end Phase

namespace Awaits

variable {goal : Symbol} {opened nesting : Nat} {before value : List Kind}

/-- Where a statement is due, no factor is open. -/
theorem reach_statement (awaits : Awaits goal .statement opened before) :
    Phase.reach none (.initial goal) before = some .statement ∧ opened = 0 := by
  obtain ⟨phase, reached, rfl, none⟩ := Phase.exists_phase_of_awaits awaits
  exact ⟨reached, none⟩

/-- Behind the word that starts an assignment, its name is due. -/
theorem reach_name (awaits : Awaits goal .statement opened before) :
    Phase.reach none (.initial goal) (before ++ [letKind]) = some .name := by
  simp [Phase.reach_append, awaits.reach_statement.1]

/-- Behind the name of an assignment, its sign is due. -/
theorem reach_assign (awaits : Awaits goal .statement opened before) :
    Phase.reach none (.initial goal) (before ++ [letKind, nameKind]) = some .assign := by
  simp [Phase.reach_append, awaits.reach_statement.1]

/-- Behind an expression, an operator or the end of it is due. -/
theorem reach_value (awaits : Awaits goal .expression opened before)
    (derives : Derives .expression nesting value) :
    ∃ outer, Phase.reach none (.initial goal) (before ++ value) = some (.operator outer) ∧
      Phase.openFactors outer = opened := by
  obtain ⟨phase, reached, outer, rfl, count⟩ := Phase.exists_phase_of_awaits awaits
  have crossed := Phase.crosses_of_derives none derives outer (Phase.fits_none _)
  exact ⟨outer, by simp [Phase.reach_append, reached, crossed], count⟩

end Awaits

/-- Where a factor is due inside so many others, a derivation that goes on from there nests more
factors than those. -/
theorem Awaits.opened_lt {goal : Symbol} {opened nesting : Nat} {before rest : List Kind}
    (awaits : Awaits goal .factor opened before)
    (derives : Derives goal nesting (before ++ rest)) : opened < nesting := by
  refine Nat.lt_of_not_le fun shallow => ?_
  have fits : Phase.Fits (some opened) nesting := fun most limited => by
    injection limited with same
    omega
  have crossed := Phase.reach_of_derives derives fits
  rw [Phase.reach_append, Option.bind_eq_some_iff] at crossed
  obtain ⟨phase, reached, further⟩ := crossed
  obtain ⟨same, unlimited, signs, outer, rfl, count⟩ := Phase.exists_phase_of_awaits awaits
  rw [Phase.reach_none_of_reach reached] at unlimited
  obtain rfl := Option.some.inj unlimited
  cases rest with
  | nil => exact Phase.operand_ne_final _ _ _ (Option.some.inj further)
  | cons kind rest =>
    have full : Phase.isFull (some opened) (signs + Phase.openFactors outer) = true := by
      simp [Phase.isFull, count]
    simp [Phase.advance, full] at further

end Conformance.Snafu
