import Conformance.Proofs.Snafu.Phase

/-!
# Where a text ends

No statement and no factor is the beginning of a longer one, and an expression is that of longer
ones only in front of an operator. The phases show it, because an expression leads through them
with any parentheses open around it: what ends it inside of one construct is refused inside of
another one. So a rule that reads one text has no choice where to end it.
-/

namespace Conformance.Snafu

variable {nesting further : Nat} {read more value other : List Kind} {kind last : Kind}

/-- Where kinds lead on behind an expression, the next one is taken, whatever is open around it. -/
theorem Derives.advance_ne_none (derives : Derives .expression nesting value) {outer : List Nat}
    (onward : Phase.reach none (.operand 0 outer) (value ++ kind :: more) ≠ none) :
    Phase.advance none (.operator outer) kind ≠ none := by
  intro refused
  have crossed := Phase.crosses_of_derives none derives outer (Phase.fits_none _)
  simp [Phase.reach_append, crossed, refused] at onward

/-- An expression goes on through the phases with anything open around it. -/
theorem Derives.reach_ne_none (derives : Derives .expression nesting value) (outer : List Nat) :
    Phase.reach none (.operand 0 outer) value ≠ none := by
  rw [Phase.crosses_of_derives none derives outer (Phase.fits_none _)]
  exact nofun

/-- A list that ends as a beginning of it does, and is longer, has that beginning in front of its
end. -/
theorem exists_eq_append_cons (same : value ++ [last] ++ more = other ++ [last])
    (longer : more ≠ []) : ∃ between, other = value ++ last :: between := by
  obtain rfl | ⟨between, final, rfl⟩ := List.eq_nil_or_concat more
  · exact absurd rfl longer
  · have split : (value ++ last :: between) ++ [final] = other ++ [last] := by simpa using same
    exact ⟨between, (List.append_inj_left' split rfl).symm⟩

/-- Only an operator makes a longer expression of one. -/
theorem Derives.operator_of_append (derives : Derives .expression nesting read)
    (longer : Derives .expression further (read ++ kind :: more)) : kind ∈ operatorKinds := by
  have bare := derives.advance_ne_none (longer.reach_ne_none [])
  have inside := derives.advance_ne_none (longer.reach_ne_none [0])
  refine Decidable.byContradiction fun foreign => ?_
  simp only [Phase.advance, foreign, ↓reduceIte] at bare inside
  obtain rfl : kind = semicolonKind := Decidable.byContradiction fun different => by
    simp [different] at bare
  exact inside rfl

/-- A statement is not the beginning of a longer one. The value of the longer one would hold a
semicolon, which parentheses do not let by. -/
theorem Derives.statement_append (derives : Derives .statement nesting read)
    (longer : Derives .statement further (read ++ more)) : more = [] := by
  have ended {value other : List Kind} {inner outer : Nat}
      (first : Derives .expression inner value) (second : Derives .expression outer other)
      (same : value ++ [semicolonKind] ++ more = other ++ [semicolonKind]) : more = [] := by
    refine Decidable.byContradiction fun nonempty => ?_
    obtain ⟨between, rfl⟩ := exists_eq_append_cons same nonempty
    exact first.advance_ne_none (second.reach_ne_none [0]) rfl
  generalize whole : read ++ more = kinds at longer
  cases derives with
  | assign first =>
    cases longer with
    | assign second => exact ended first second (by simpa using whole)
    | print second => simp [letKind, printKind] at whole
  | print first =>
    cases longer with
    | assign second => simp [letKind, printKind] at whole
    | print second => exact ended first second (by simpa using whole)

/-- What a factor is follows from its first kind. -/
theorem Derives.factor_cons (derives : Derives .factor nesting (kind :: more)) :
    (kind ∈ operandKinds ∧ more = []) ∨
      (kind = openKind ∧ ∃ inner value, Derives .expression inner value ∧
        more = value ++ [closeKind]) ∨
      (kind = minusKind ∧ ∃ inner, Derives .factor inner more) := by
  cases derives with
  | operand single => exact .inl ⟨single, rfl⟩
  | group expression => exact .inr (.inl ⟨rfl, _, _, expression, rfl⟩)
  | negation factor => exact .inr (.inr ⟨rfl, _, factor⟩)

/-- A factor is not the beginning of a longer one. -/
theorem Derives.factor_append {symbol : Symbol} (derives : Derives symbol nesting read)
    (alone : symbol = .factor) (longer : Derives .factor further (read ++ more)) : more = [] := by
  induction derives generalizing further more with
  | operand single =>
    rcases longer.factor_cons with ⟨-, nothing⟩ | ⟨rfl, -⟩ | ⟨rfl, -⟩
    · exact nothing
    · exact absurd single (by decide)
    · exact absurd single (by decide)
  | @group nesting value first =>
    rcases longer.factor_cons with ⟨single, -⟩ | ⟨-, _, other, second, same⟩ | ⟨sign, -⟩
    · exact absurd single (by decide)
    · refine Decidable.byContradiction fun nonempty => ?_
      obtain ⟨between, rfl⟩ := exists_eq_append_cons same nonempty
      exact first.advance_ne_none (second.reach_ne_none []) rfl
    · exact absurd sign (by decide)
  | negation first ih =>
    rcases longer.factor_cons with ⟨single, -⟩ | ⟨parenthesis, -⟩ | ⟨-, _, second⟩
    · exact absurd single (by decide)
    · exact absurd parenthesis (by decide)
    · exact ih rfl second
  | empty | append | assign | print | operation | factor => cases alone

end Conformance.Snafu
