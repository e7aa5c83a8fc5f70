import Conformance.Grammar.Snafu.Rules

/-!
# The syntax of Snafu

The productions of Snafu as derivations of kinds, with the number of factors that a derivation
nests. Beside them stand the points of a program at which a symbol is due: what has been read up to
such a point can always be completed to a program, and so it is a viable prefix.
-/

namespace Conformance.Snafu

/-- The symbols that have productions. -/
inductive Symbol where
  /-- Statements up to the end of the input. -/
  | program
  /-- A statement. -/
  | statement
  /-- An expression. -/
  | expression
  /-- A factor. -/
  | factor
  deriving Repr, DecidableEq

/-- The kinds of the operators between expressions. -/
def operatorKinds : List Kind := [starKind, slashKind, plusKind, minusKind]

/-- The kinds that are factors by themselves. -/
def operandKinds : List Kind := [numberKind, nameKind, stringKind]

/-- Kinds that derive from a symbol. The number is the greatest one of factors, one inside the
other, that any of the kinds lies in. -/
inductive Derives : Symbol → Nat → List Kind → Prop
  /-- No statement. -/
  | empty : Derives .program 0 []
  /-- A statement before others. -/
  | append {inner outer : Nat} {first rest : List Kind} (statement : Derives .statement inner first)
    (program : Derives .program outer rest) : Derives .program (max inner outer) (first ++ rest)
  /-- An assignment. -/
  | assign {nesting : Nat} {value : List Kind} (expression : Derives .expression nesting value) :
    Derives .statement nesting ([letKind, nameKind, assignKind] ++ value ++ [semicolonKind])
  /-- An output. -/
  | print {nesting : Nat} {value : List Kind} (expression : Derives .expression nesting value) :
    Derives .statement nesting ([printKind] ++ value ++ [semicolonKind])
  /-- An operator between two expressions. -/
  | operation {inner outer : Nat} {left right : List Kind} {operator : Kind}
    (first : Derives .expression inner left) (binary : operator ∈ operatorKinds)
    (second : Derives .expression outer right) :
    Derives .expression (max inner outer) (left ++ [operator] ++ right)
  /-- A factor alone. -/
  | factor {nesting : Nat} {kinds : List Kind} (factor : Derives .factor nesting kinds) :
    Derives .expression nesting kinds
  /-- A number, a name or a string. -/
  | operand {kind : Kind} (single : kind ∈ operandKinds) : Derives .factor 1 [kind]
  /-- An expression in parentheses. -/
  | group {nesting : Nat} {kinds : List Kind} (expression : Derives .expression nesting kinds) :
    Derives .factor (nesting + 1) ([openKind] ++ kinds ++ [closeKind])
  /-- A sign before a factor. -/
  | negation {nesting : Nat} {kinds : List Kind} (factor : Derives .factor nesting kinds) :
    Derives .factor (nesting + 1) ([minusKind] ++ kinds)

/-- The kinds derive from a symbol. -/
def Derivable (goal : Symbol) (kinds : List Kind) : Prop :=
  ∃ nesting, Derives goal nesting kinds

/-- The kinds can be completed to some that derive from a symbol. -/
def Viable (goal : Symbol) (kinds : List Kind) : Prop :=
  ∃ rest, Derivable goal (kinds ++ rest)

/-- A kind can come next after those read: they go on with it to a derivable text, or, for the end
of the input, they are one. -/
def CanFollow (goal : Symbol) (before : List Kind) (kind : Kind) : Prop :=
  if kind = .eof then Derivable goal before else Viable goal (before ++ [kind])

/-- The points of a text of `goal` at which a symbol is due, by the number of factors that are open
there and the kinds read before. There is a point for every symbol on the right of a production,
but for a left operand: it is due where its expression is. -/
inductive Awaits (goal : Symbol) : Symbol → Nat → List Kind → Prop
  /-- The goal itself. -/
  | start : Awaits goal goal 0 []
  /-- The statements after one. -/
  | append {opened nesting : Nat} {before first : List Kind}
    (program : Awaits goal .program opened before) (statement : Derives .statement nesting first) :
    Awaits goal .program opened (before ++ first)
  /-- A statement before others. -/
  | statement {opened : Nat} {before : List Kind} (program : Awaits goal .program opened before) :
    Awaits goal .statement opened before
  /-- The value of an assignment. -/
  | assign {opened : Nat} {before : List Kind} (statement : Awaits goal .statement opened before) :
    Awaits goal .expression opened (before ++ [letKind, nameKind, assignKind])
  /-- The value of an output. -/
  | print {opened : Nat} {before : List Kind} (statement : Awaits goal .statement opened before) :
    Awaits goal .expression opened (before ++ [printKind])
  /-- The right operand of an operator. -/
  | operation {opened nesting : Nat} {before left : List Kind} {operator : Kind}
    (expression : Awaits goal .expression opened before)
    (first : Derives .expression nesting left) (binary : operator ∈ operatorKinds) :
    Awaits goal .expression opened (before ++ left ++ [operator])
  /-- A factor alone. -/
  | factor {opened : Nat} {before : List Kind}
    (expression : Awaits goal .expression opened before) : Awaits goal .factor opened before
  /-- An expression in parentheses. -/
  | group {opened : Nat} {before : List Kind} (factor : Awaits goal .factor opened before) :
    Awaits goal .expression (opened + 1) (before ++ [openKind])
  /-- A factor behind a sign. -/
  | negation {opened : Nat} {before : List Kind} (factor : Awaits goal .factor opened before) :
    Awaits goal .factor (opened + 1) (before ++ [minusKind])

variable {goal symbol : Symbol} {opened : Nat} {before : List Kind}

/-- Reading what is due at a point leaves a text that can be completed. -/
theorem Awaits.viable (awaits : Awaits goal symbol opened before) {nesting : Nat}
    {kinds : List Kind} (derives : Derives symbol nesting kinds) :
    Viable goal (before ++ kinds) := by
  induction awaits generalizing nesting kinds with
  | start => exact ⟨[], nesting, by simpa using derives⟩
  | append program statement ih =>
    simpa using ih (statement.append derives)
  | statement program ih =>
    simpa using ih (derives.append .empty)
  | assign statement ih =>
    obtain ⟨rest, derivable⟩ := ih derives.assign
    exact ⟨semicolonKind :: rest, by simpa using derivable⟩
  | print statement ih =>
    obtain ⟨rest, derivable⟩ := ih derives.print
    exact ⟨semicolonKind :: rest, by simpa using derivable⟩
  | operation expression first binary ih =>
    simpa using ih (first.operation binary derives)
  | factor expression ih => exact ih derives.factor
  | group factor ih =>
    obtain ⟨rest, derivable⟩ := ih derives.group
    exact ⟨closeKind :: rest, by simpa using derivable⟩
  | negation factor ih =>
    simpa using ih derives.negation

/-- A prefix of a viable text is viable. -/
theorem Viable.of_append {kinds further : List Kind} (viable : Viable goal (kinds ++ further)) :
    Viable goal kinds := by
  obtain ⟨rest, derivable⟩ := viable
  exact ⟨further ++ rest, by simpa using derivable⟩

/-- Every symbol derives some text. -/
theorem exists_derives (symbol : Symbol) : ∃ nesting kinds, Derives symbol nesting kinds := by
  have factor : Derives .factor 1 [numberKind] := .operand (by decide)
  cases symbol with
  | program => exact ⟨0, [], .empty⟩
  | statement => exact ⟨_, _, factor.factor.print⟩
  | expression => exact ⟨_, _, factor.factor⟩
  | factor => exact ⟨_, _, factor⟩

/-- What has been read at a point is a viable prefix. -/
theorem Awaits.viable_before (awaits : Awaits goal symbol opened before) : Viable goal before := by
  obtain ⟨nesting, kinds, derives⟩ := exists_derives symbol
  exact (awaits.viable derives).of_append

/-- A kind that starts a text of the symbol due can come next. -/
theorem Awaits.canFollow (awaits : Awaits goal symbol opened before) {nesting : Nat} {kind : Kind}
    {rest : List Kind} (derives : Derives symbol nesting (kind :: rest)) (going : kind ≠ .eof) :
    CanFollow goal before kind := by
  rw [CanFollow, if_neg going]
  have viable : Viable goal (before ++ [kind] ++ rest) := by
    simpa using awaits.viable derives
  exact viable.of_append

/-- What leads in the expression of a statement. -/
def Leads (lead : List Kind) : Prop :=
  lead = [letKind, nameKind, assignKind] ∨ lead = [printKind]

/-- Behind what leads it in, an expression is due. -/
theorem Leads.awaits {lead : List Kind} (leads : Leads lead)
    (awaits : Awaits goal .statement opened before) :
    Awaits goal .expression opened (before ++ lead) := by
  rcases leads with rfl | rfl
  · exact awaits.assign
  · exact awaits.print

/-- An expression with what leads it in and a semicolon is a statement. -/
theorem Leads.derives {nesting : Nat} {lead value : List Kind} (leads : Leads lead)
    (derives : Derives .expression nesting value) :
    Derives .statement nesting (lead ++ value ++ [semicolonKind]) := by
  rcases leads with rfl | rfl
  · exact derives.assign
  · exact derives.print

end Conformance.Snafu
