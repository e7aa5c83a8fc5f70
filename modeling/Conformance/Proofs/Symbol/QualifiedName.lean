import Conformance.Symbol.Identity
import Mathlib.Data.List.Basic

/-!
# Qualified names

A qualified name is a dotted name, the grammar in its namespace, with the suffix of a role behind
it. The suffixes end differently, so a name says its role and with it the dotted name. Where the
name of the grammar holds no dot, the namespace is what stands before the last dot of the dotted
name, so the namespace and the grammar can be told from the name as well.
-/

namespace Conformance

/-- A grammar in its namespace: both with a dot between them, or the grammar alone when there is no
namespace. -/
def dottedName (scope grammar : String) : String :=
  if scope.isEmpty then grammar else scope ++ "." ++ grammar

variable {scope scope' grammar grammar' : String}

/-- A qualified name is the dotted name and a suffix. -/
theorem qualifiedName_eq (scope grammar suffix : String) :
    qualifiedName scope grammar suffix = dottedName scope grammar ++ suffix := by
  unfold qualifiedName dottedName
  by_cases bare : scope.isEmpty = true
  · rw [if_pos bare, if_pos bare]
  · rw [if_neg bare, if_neg bare]

/-! ## Roles -/

/-- A text that ends with the suffix of a role ends with the suffix of no other role, and with the
same suffix behind them texts are the same. The suffixes differ in length, but they agree in their
last two characters only. -/
theorem Role.append_suffix_inj {before before' : String} {role role' : Role}
    (same : before ++ role.suffix = before' ++ role'.suffix) : before = before' ∧ role = role' := by
  have chars : before.toList ++ role.suffix.toList = before'.toList ++ role'.suffix.toList := by
    simpa only [String.toList_append] using congrArg String.toList same
  have apart : ∀ text other : List Char,
      text ++ Role.lexer.suffix.toList ≠ other ++ Role.parser.suffix.toList := by
    intro text other equal
    have lexer : Role.lexer.suffix.toList = "Le".toList ++ "xer".toList := by decide
    have parser : Role.parser.suffix.toList = "Par".toList ++ "ser".toList := by decide
    rw [lexer, parser, ← List.append_assoc, ← List.append_assoc] at equal
    have ends : "xer".toList = "ser".toList := List.append_inj_right' equal (by decide)
    exact absurd ends (by decide)
  cases role with
  | lexer =>
    cases role' with
    | lexer => exact ⟨String.toList_inj.1 (List.append_cancel_right chars), rfl⟩
    | parser => exact absurd chars (apart _ _)
  | parser =>
    cases role' with
    | lexer => exact absurd chars.symm (apart _ _)
    | parser => exact ⟨String.toList_inj.1 (List.append_cancel_right chars), rfl⟩

/-! ## Dots -/

/-- What stands behind the last dot of a text is read from its end. -/
theorem takeWhile_reverse_of_plain {back : List Char} (plain : '.' ∉ back) (front : List Char) :
    (front ++ '.' :: back).reverse.takeWhile (· != '.') = back.reverse := by
  have passes : ∀ c ∈ back.reverse, (c != '.') = true := by
    intro c member
    rw [bne_iff_ne]
    rintro rfl
    exact plain (List.mem_reverse.1 member)
  rw [List.reverse_append, List.reverse_cons, List.append_assoc,
    List.takeWhile_append_of_pos passes]
  exact List.append_nil back.reverse

/-- What stands before and behind the last dot of a text is determined. -/
theorem append_dot_inj {front front' back back' : List Char} (plain : '.' ∉ back)
    (plain' : '.' ∉ back') (same : front ++ '.' :: back = front' ++ '.' :: back') :
    front = front' ∧ back = back' := by
  have behind : back = back' := by
    have read := takeWhile_reverse_of_plain plain front
    rw [same, takeWhile_reverse_of_plain plain' front'] at read
    exact List.reverse_injective read.symm
  subst behind
  exact ⟨List.append_cancel_right same, rfl⟩

/-- The characters of a dotted name with a namespace. -/
theorem toList_dottedName (named : scope.isEmpty = false) :
    (dottedName scope grammar).toList = scope.toList ++ '.' :: grammar.toList := by
  have dot : ".".toList = ['.'] := by decide
  rw [dottedName, if_neg (Bool.eq_false_iff.1 named), String.toList_append, String.toList_append,
    dot, List.append_assoc]
  rfl

/-- A dotted name with a namespace is no name without a dot. -/
theorem dottedName_ne (named : scope.isEmpty = false) (plain : '.' ∉ grammar'.toList) :
    dottedName scope grammar ≠ grammar' := by
  intro same
  have dot : '.' ∈ (dottedName scope grammar).toList := by
    rw [toList_dottedName named]
    exact List.mem_append_cons_self
  rw [same] at dot
  exact plain dot

/-- Grammars without a dot in their names have different dotted names. -/
theorem dottedName_inj (plain : '.' ∉ grammar.toList) (plain' : '.' ∉ grammar'.toList)
    (same : dottedName scope grammar = dottedName scope' grammar') :
    scope = scope' ∧ grammar = grammar' := by
  cases named : scope.isEmpty with
  | true =>
    have whole : dottedName scope grammar = grammar := if_pos named
    cases named' : scope'.isEmpty with
    | true =>
      have whole' : dottedName scope' grammar' = grammar' := if_pos named'
      have scopes : scope = scope' :=
        (String.isEmpty_iff.1 named).trans (String.isEmpty_iff.1 named').symm
      exact ⟨scopes, whole.symm.trans (same.trans whole')⟩
    | false => exact absurd (same.symm.trans whole) (dottedName_ne named' plain)
  | false =>
    cases named' : scope'.isEmpty with
    | true =>
      have whole' : dottedName scope' grammar' = grammar' := if_pos named'
      exact absurd (same.trans whole') (dottedName_ne named plain')
    | false =>
      have chars := congrArg String.toList same
      rw [toList_dottedName named, toList_dottedName named'] at chars
      obtain ⟨scopes, grammars⟩ := append_dot_inj plain plain' chars
      exact ⟨String.toList_inj.1 scopes, String.toList_inj.1 grammars⟩

/-! ## Qualified names -/

/-- Qualified names do not collide. Those of grammars without a dot in their names are the same only
for the same namespace, grammar and role. Those of any grammars for one role are the same just when
the dotted names are, and no lexer is named as a parser is. -/
theorem qualifiedName_injective (scope scope' grammar grammar' : String) :
    (∀ role role' : Role, '.' ∉ grammar.toList → '.' ∉ grammar'.toList →
      qualifiedName scope grammar role.suffix = qualifiedName scope' grammar' role'.suffix →
        scope = scope' ∧ grammar = grammar' ∧ role = role') ∧
      (∀ role : Role,
        qualifiedName scope grammar role.suffix = qualifiedName scope' grammar' role.suffix ↔
          dottedName scope grammar = dottedName scope' grammar') ∧
      qualifiedName scope grammar Role.lexer.suffix ≠
        qualifiedName scope' grammar' Role.parser.suffix := by
  simp only [qualifiedName_eq]
  refine ⟨fun role role' plain plain' same => ?_, fun role => ?_, fun same => ?_⟩
  · obtain ⟨dotted, roles⟩ := Role.append_suffix_inj same
    obtain ⟨scopes, grammars⟩ := dottedName_inj plain plain' dotted
    exact ⟨scopes, grammars, roles⟩
  · constructor
    · intro same
      exact (Role.append_suffix_inj same).1
    · intro same
      rw [same]
  · have roles : Role.lexer = Role.parser := (Role.append_suffix_inj same).2
    exact absurd roles (by decide)

/-- A grammar may be named like the lexer of another one: the names differ all the same. With a dot
in its name it may share the names of a grammar in a longer namespace. -/
theorem qualifiedName_injective_lexer :
    ('.' ∉ "SnafuLexer".toList ∧ '.' ∉ "Snafu".toList ∧
      qualifiedName "foo" "SnafuLexer" Role.parser.suffix ≠
        qualifiedName "foo" "Snafu" Role.lexer.suffix) ∧
      qualifiedName "foo" "bar.Snafu" Role.lexer.suffix =
        qualifiedName "foo.bar" "Snafu" Role.lexer.suffix := by
  have plain : '.' ∉ "SnafuLexer".toList := by decide
  have plain' : '.' ∉ "Snafu".toList := by decide
  refine ⟨⟨plain, plain', fun same => ?_⟩, ?_⟩
  · have alike := (qualifiedName_injective "foo" "foo" "SnafuLexer" "Snafu").1 .parser .lexer
      plain plain' same
    exact absurd alike.2.2 (by decide)
  · have shared := (qualifiedName_injective "foo" "foo.bar" "bar.Snafu" "Snafu").2.1 .lexer
    exact shared.2 (by decide)

end Conformance
