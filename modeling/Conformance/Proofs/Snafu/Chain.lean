import Conformance.Proofs.Snafu.Ending
import Conformance.Proofs.Snafu.Verdict

/-!
# Chains of operators

An expression is a factor with a chain behind it, of operators with one factor each. The grammar of
Snafu says nothing of precedence, and any operators make a chain of it. With a least precedence a
chain holds operators of at least that one only. In front of the same tokens there is one factor at
most, and of the chains behind it one is the longest: the one behind which no operator of its
precedence stands.
-/

namespace Conformance.Snafu

/-! ## Operators of a precedence -/

/-- The operators of at least a precedence. Those of sums have precedence one and those of products
have precedence two. -/
def operatorsFrom (least : Nat) : List Kind :=
  if least ≤ 1 then operatorKinds
  else if least = 2 then [starKind, slashKind]
  else []

/-- The operators of at least a precedence are the kinds that have such a precedence. -/
theorem mem_operatorsFrom {least : Nat} {kind : Kind} :
    kind ∈ operatorsFrom least ↔
      ∃ precedence, precedence? kind = some precedence ∧ least ≤ precedence := by
  unfold operatorsFrom precedence? operatorKinds
  by_cases sum : kind = plusKind ∨ kind = minusKind
  · rcases sum with rfl | rfl <;> grind
  · by_cases product : kind = starKind ∨ kind = slashKind
    · rcases product with rfl | rfl <;> grind
    · grind

/-- Operators of a higher precedence are operators of a lower one. -/
theorem mem_operatorsFrom_of_le {least higher : Nat} (le : least ≤ higher) {kind : Kind}
    (binds : kind ∈ operatorsFrom higher) : kind ∈ operatorsFrom least := by
  obtain ⟨precedence, found, high⟩ := mem_operatorsFrom.1 binds
  exact mem_operatorsFrom.2 ⟨precedence, found, Nat.le_trans le high⟩

/-- What has a precedence is an operator, and so does not end the input. -/
theorem ne_eof_of_mem_operatorsFrom {least : Nat} {kind : Kind}
    (binds : kind ∈ operatorsFrom least) : kind ≠ .eof := by
  obtain ⟨precedence, found, -⟩ := mem_operatorsFrom.1 binds
  exact ne_of_mem_of_not_mem (mem_operatorKinds found) (by decide)

/-- An expression ends where no operator of its precedence stands. -/
theorem ended_iff {least : Nat} {kind : Kind} : Ended least kind ↔ kind ∉ operatorsFrom least := by
  simp only [Ended, mem_operatorsFrom, not_exists, not_and, Nat.not_le]

/-- What ends a chain ends those of a higher precedence. -/
theorem Ended.mono {least higher : Nat} {kind : Kind} (ended : Ended least kind)
    (le : least ≤ higher) : Ended higher kind :=
  fun precedence found => Nat.lt_of_lt_of_le (ended precedence found) le

/-! ## Chains of operators -/

/-- Tokens that are a factor with at most so many factors in one another, itself included. -/
def IsFactor (most : Nat) (tokens : List Token) : Prop :=
  ∃ nesting ≤ most, Derives .factor nesting (tokens.map Token.kind)

/-- Operators of at least a precedence, each with a factor behind it that nests at most so many. -/
inductive Chain (least most : Nat) : List Token → Prop
  /-- No operator. -/
  | nil : Chain least most []
  /-- An operator and its right operand before others. -/
  | cons {operator : Token} {operand rest : List Token}
    (binds : operator.kind ∈ operatorsFrom least) (factor : IsFactor most operand)
    (chain : Chain least most rest) : Chain least most (operator :: (operand ++ rest))

namespace Chain

variable {least higher most : Nat} {tokens first second rest : List Token}

/-- One chain goes on with another. -/
theorem append (chain : Chain least most first) (further : Chain least most second) :
    Chain least most (first ++ second) := by
  induction chain with
  | nil => exact further
  | cons binds factor chain ih =>
    rw [List.cons_append, List.append_assoc]
    exact .cons binds factor ih

/-- Operators of a higher precedence make chains of a lower one. -/
theorem mono (chain : Chain higher most tokens) (le : least ≤ higher) :
    Chain least most tokens := by
  induction chain with
  | nil => exact .nil
  | cons binds factor chain ih => exact .cons (mem_operatorsFrom_of_le le binds) factor ih

/-- A chain begins with one of a higher precedence, behind which no operator of that precedence
stands. -/
theorem split (chain : Chain least most tokens) (higher : Nat) :
    ∃ front behind, tokens = front ++ behind ∧ Chain higher most front ∧
      Chain least most behind ∧ ∀ next ∈ behind.head?, Ended higher next.kind := by
  induction chain with
  | nil => exact ⟨[], [], rfl, .nil, .nil, by simp⟩
  | @cons operator operand rest binds factor chain ih =>
    by_cases high : operator.kind ∈ operatorsFrom higher
    · obtain ⟨front, behind, rfl, above, below, ended⟩ := ih
      exact ⟨operator :: (operand ++ front), behind, by simp, .cons high factor above, below, ended⟩
    · exact ⟨[], _, rfl, .nil, .cons binds factor chain, by simpa [ended_iff] using high⟩

/-- An expression with a chain behind it is an expression that nests no deeper than the two. -/
theorem derives {nesting : Nat} {value chain : List Token} (chained : Chain least most chain)
    (expression : Derives .expression nesting (value.map Token.kind)) (fits : nesting ≤ most) :
    ∃ total ≤ most, Derives .expression total ((value ++ chain).map Token.kind) := by
  induction chained generalizing nesting value with
  | nil => exact ⟨nesting, fits, by simpa using expression⟩
  | @cons operator operand rest binds factor chain ih =>
    obtain ⟨inner, room, factor⟩ := factor
    obtain ⟨precedence, found, -⟩ := mem_operatorsFrom.1 binds
    have joined : Derives .expression (max nesting inner)
        ((value ++ operator :: operand).map Token.kind) := by
      simpa using expression.operation (mem_operatorKinds found) factor.factor
    obtain ⟨total, bound, derives⟩ := ih joined (Nat.max_le.2 ⟨fits, room⟩)
    exact ⟨total, bound, by simpa using derives⟩

end Chain

/-- Tokens of an expression are a factor with a chain of any operators behind it. -/
theorem exists_chain_of_derives {symbol : Symbol} {nesting most : Nat} {kinds : List Kind}
    (derives : Derives symbol nesting kinds) (whole : symbol = .expression) (fits : nesting ≤ most)
    {tokens : List Token} (same : tokens.map Token.kind = kinds) :
    ∃ operand chain, tokens = operand ++ chain ∧ IsFactor most operand ∧ Chain 0 most chain := by
  induction derives generalizing tokens with
  | @operation inner outer left right operator first binary second first_ih second_ih =>
    obtain ⟨bound, bound'⟩ := Nat.max_le.1 fits
    rw [List.append_assoc] at same
    obtain ⟨before, behind, rfl, rfl, onward⟩ := List.map_eq_append_iff.1 same
    obtain ⟨sign, after, rfl, rfl, rfl⟩ := List.map_eq_cons_iff.1 onward
    obtain ⟨operand, chain, rfl, factor, chained⟩ := first_ih rfl bound rfl
    obtain ⟨operand', chain', rfl, factor', chained'⟩ := second_ih rfl bound' rfl
    exact ⟨operand, chain ++ sign :: (operand' ++ chain'), by simp, factor,
      chained.append (.cons binary factor' chained')⟩
  | @factor nesting kinds factor ih =>
    exact ⟨tokens, [], by simp, ⟨nesting, fits, same ▸ factor⟩, .nil⟩
  | empty | append | assign | print | operand | group | negation => cases whole

/-- What a factor with some room is follows from its first token. -/
theorem IsFactor.cases {most : Nat} {tokens : List Token} (factor : IsFactor most tokens) :
    ∃ less, most = less + 1 ∧
      ((∃ token, tokens = [token] ∧ token.kind ∈ operandKinds) ∨
        (∃ first value last, tokens = first :: (value ++ [last]) ∧ first.kind = openKind ∧
          last.kind = closeKind ∧
          ∃ nesting ≤ less, Derives .expression nesting (value.map Token.kind)) ∨
        ∃ sign inner, tokens = sign :: inner ∧ sign.kind = minusKind ∧ IsFactor less inner) := by
  obtain ⟨nesting, fits, derives⟩ := factor
  generalize same : tokens.map Token.kind = kinds at derives
  cases derives with
  | @operand kind single =>
    obtain ⟨token, rest, rfl, rfl, nothing⟩ := List.map_eq_cons_iff.1 same
    obtain rfl := List.map_eq_nil_iff.1 nothing
    exact ⟨most - 1, by omega, .inl ⟨token, rfl, single⟩⟩
  | @group nesting kinds expression =>
    obtain ⟨first, rest, rfl, opened, onward⟩ := List.map_eq_cons_iff.1 same
    obtain ⟨value, final, rfl, rfl, closing⟩ := List.map_eq_append_iff.1 onward
    obtain ⟨last, nothing, rfl, closed, empty⟩ := List.map_eq_cons_iff.1 closing
    obtain rfl := List.map_eq_nil_iff.1 empty
    exact ⟨most - 1, by omega, .inr (.inl ⟨first, value, last, rfl, opened, closed, nesting,
      by omega, expression⟩)⟩
  | @negation nesting kinds factor =>
    obtain ⟨sign, inner, rfl, minus, rfl⟩ := List.map_eq_cons_iff.1 same
    exact ⟨most - 1, by omega, .inr (.inr ⟨sign, inner, rfl, minus, nesting, by omega, factor⟩)⟩

/-- Tokens that begin with two factors begin with the same. -/
theorem IsFactor.unique {most other : Nat} {first second rest left : List Token}
    (factor : IsFactor most first) (again : IsFactor other second)
    (same : first ++ rest = second ++ left) : first = second ∧ rest = left := by
  obtain ⟨nesting, -, derives⟩ := factor
  obtain ⟨nesting', -, derives'⟩ := again
  rcases List.append_eq_append_iff.1 same with ⟨more, rfl, rfl⟩ | ⟨more, rfl, rfl⟩
  · rw [List.map_append] at derives'
    obtain rfl := List.map_eq_nil_iff.1 (derives.factor_append rfl derives')
    simp
  · rw [List.map_append] at derives
    obtain rfl := List.map_eq_nil_iff.1 (derives'.factor_append rfl derives)
    simp

/-- No chain in front of some tokens is longer than one that ends. -/
theorem Chain.prefix_of_ended {least most other : Nat} {chain longest rest left : List Token}
    (chained : Chain least other chain) (full : Chain least most longest)
    (same : longest ++ rest = chain ++ left) (ended : ∀ next ∈ rest.head?, Ended least next.kind) :
    chain <+: longest := by
  induction chained generalizing longest with
  | nil => exact List.nil_prefix
  | @cons operator operand further binds factor chained ih =>
    cases full with
    | nil =>
      rw [List.nil_append] at same
      exact absurd binds (ended_iff.1 (ended operator (by simp [same])))
    | @cons operator' operand' further' binds' factor' full =>
      simp only [List.cons_append, List.append_assoc, List.cons.injEq] at same
      obtain ⟨rfl, onward⟩ := same
      obtain ⟨rfl, beyond⟩ := factor'.unique factor onward
      have shorter : further <+: further' := ih full beyond
      simpa using shorter

end Conformance.Snafu
