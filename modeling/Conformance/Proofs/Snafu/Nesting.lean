import Conformance.Proofs.Snafu.Printing
import Conformance.Proofs.Snafu.Verdict

/-!
# Nesting

How deep a program nests is the greatest number of parentheses and signs around any of its tokens.
Each of them is a factor around a factor, and the innermost operand is a factor too: where so many
of them enclose an operand, one factor more than that is open. So a program is accepted as long as
it nests less deep than factors may, and it fails from there on.
-/

namespace Conformance.Snafu

/-! ## What encloses a token -/

/-- Texts of a symbol inside so many parentheses and signs. Each kind stands with the number of
those that enclose it. -/
inductive Enclosed : Symbol → Nat → List (Kind × Nat) → Prop
  /-- No statement. -/
  | empty : Enclosed .program 0 []
  /-- A statement before others. -/
  | append {first rest : List (Kind × Nat)} (statement : Enclosed .statement 0 first)
    (program : Enclosed .program 0 rest) : Enclosed .program 0 (first ++ rest)
  /-- An assignment. -/
  | assign {value : List (Kind × Nat)} (expression : Enclosed .expression 0 value) :
    Enclosed .statement 0
      ([(letKind, 0), (nameKind, 0), (assignKind, 0)] ++ value ++ [(semicolonKind, 0)])
  /-- An output. -/
  | print {value : List (Kind × Nat)} (expression : Enclosed .expression 0 value) :
    Enclosed .statement 0 ([(printKind, 0)] ++ value ++ [(semicolonKind, 0)])
  /-- An operator between two expressions. -/
  | operation {around : Nat} {left right : List (Kind × Nat)} {operator : Kind}
    (first : Enclosed .expression around left) (binary : operator ∈ operatorKinds)
    (second : Enclosed .expression around right) :
    Enclosed .expression around (left ++ [(operator, around)] ++ right)
  /-- A factor alone. -/
  | factor {around : Nat} {marked : List (Kind × Nat)} (factor : Enclosed .factor around marked) :
    Enclosed .expression around marked
  /-- A number, a name or a string. -/
  | operand {around : Nat} {kind : Kind} (single : kind ∈ operandKinds) :
    Enclosed .factor around [(kind, around)]
  /-- An expression in parentheses. -/
  | group {around : Nat} {marked : List (Kind × Nat)}
    (expression : Enclosed .expression (around + 1) marked) :
    Enclosed .factor around ([(openKind, around)] ++ marked ++ [(closeKind, around)])
  /-- A sign before a factor. -/
  | negation {around : Nat} {marked : List (Kind × Nat)}
    (factor : Enclosed .factor (around + 1) marked) :
    Enclosed .factor around ([(minusKind, around)] ++ marked)

/-- The greatest number of parentheses and signs around any token. -/
def deepest (marked : List (Kind × Nat)) : Nat :=
  (marked.map Prod.snd).foldr max 0

/-- Around no token there is nothing. -/
@[simp] theorem deepest_nil : deepest [] = 0 := rfl

/-- The depth of tokens is that of the first one or that of the others. -/
@[simp] theorem deepest_cons (token : Kind × Nat) (marked : List (Kind × Nat)) :
    deepest (token :: marked) = max token.2 (deepest marked) := rfl

/-- The depth of tokens one after the other is that of either part. -/
@[simp] theorem deepest_append (first rest : List (Kind × Nat)) :
    deepest (first ++ rest) = max (deepest first) (deepest rest) := by
  induction first with
  | nil => simp
  | cons token first ih => rw [List.cons_append, deepest_cons, deepest_cons, ih, Nat.max_assoc]

/-- How a text of a symbol can be given the numbers of what encloses its kinds. -/
def Markable (kinds : List Kind) : Symbol → Prop
  | .program => ∃ marked, Enclosed .program 0 marked ∧ marked.map Prod.fst = kinds
  | .statement => ∃ marked, Enclosed .statement 0 marked ∧ marked.map Prod.fst = kinds
  | .expression =>
    ∀ around, ∃ marked, Enclosed .expression around marked ∧ marked.map Prod.fst = kinds
  | .factor => ∀ around, ∃ marked, Enclosed .factor around marked ∧ marked.map Prod.fst = kinds

/-- In every text of a symbol each kind is enclosed by some number of parentheses and signs. -/
theorem markable_of_derives {symbol : Symbol} {nesting : Nat} {kinds : List Kind}
    (derives : Derives symbol nesting kinds) : Markable kinds symbol := by
  induction derives with
  | empty => exact ⟨[], .empty, rfl⟩
  | append statement program first_ih rest_ih =>
    obtain ⟨first, here, rfl⟩ := first_ih
    obtain ⟨rest, further, rfl⟩ := rest_ih
    exact ⟨first ++ rest, here.append further, List.map_append⟩
  | assign expression ih =>
    obtain ⟨value, inside, rfl⟩ := ih 0
    exact ⟨_, inside.assign, by simp⟩
  | print expression ih =>
    obtain ⟨value, inside, rfl⟩ := ih 0
    exact ⟨_, inside.print, by simp⟩
  | operation first binary second first_ih second_ih =>
    intro around
    obtain ⟨left, before, rfl⟩ := first_ih around
    obtain ⟨right, behind, rfl⟩ := second_ih around
    exact ⟨_, before.operation binary behind, by simp⟩
  | factor factor ih =>
    intro around
    obtain ⟨marked, alone, rfl⟩ := ih around
    exact ⟨marked, alone.factor, rfl⟩
  | operand single => exact fun around => ⟨_, .operand single, rfl⟩
  | group expression ih =>
    intro around
    obtain ⟨marked, inside, rfl⟩ := ih (around + 1)
    exact ⟨_, inside.group, by simp⟩
  | negation factor ih =>
    intro around
    obtain ⟨marked, inside, rfl⟩ := ih (around + 1)
    exact ⟨_, inside.negation, by simp⟩

/-- How many factors a text of a symbol nests that lies inside so many parentheses and signs and
has a token inside `deepest` of them, but none inside more. -/
def Counts (around deepest nesting : Nat) : Symbol → Prop
  | .program => deepest + 1 = max 1 nesting
  | .statement | .expression | .factor => deepest + 1 = around + nesting ∧ 0 < nesting

/-- The parentheses and signs around the deepest token and its operand are the factors that a text
nests. -/
theorem Enclosed.derives {symbol : Symbol} {around : Nat} {marked : List (Kind × Nat)}
    (enclosed : Enclosed symbol around marked) :
    ∃ nesting, Derives symbol nesting (marked.map Prod.fst) ∧
      Counts around (deepest marked) nesting symbol := by
  induction enclosed with
  | empty => exact ⟨0, .empty, rfl⟩
  | append statement program first_ih rest_ih =>
    obtain ⟨inner, first, here⟩ := first_ih
    obtain ⟨outer, rest, further⟩ := rest_ih
    refine ⟨max inner outer, by simpa using first.append rest, ?_⟩
    simp only [Counts, deepest_append] at here further ⊢
    omega
  | assign expression ih =>
    obtain ⟨nesting, value, count⟩ := ih
    refine ⟨nesting, by simpa using value.assign, ?_⟩
    simpa [Counts] using count
  | print expression ih =>
    obtain ⟨nesting, value, count⟩ := ih
    refine ⟨nesting, by simpa using value.print, ?_⟩
    simpa [Counts] using count
  | operation first binary second first_ih second_ih =>
    obtain ⟨inner, left, before⟩ := first_ih
    obtain ⟨outer, right, behind⟩ := second_ih
    refine ⟨max inner outer, by simpa using left.operation binary right, ?_⟩
    simp only [Counts, deepest_append, deepest_cons, deepest_nil] at before behind ⊢
    omega
  | factor factor ih =>
    obtain ⟨nesting, alone, count⟩ := ih
    exact ⟨nesting, alone.factor, count⟩
  | operand single => exact ⟨1, .operand single, by simp [Counts]⟩
  | group expression ih =>
    obtain ⟨nesting, inside, count⟩ := ih
    refine ⟨nesting + 1, by simpa using inside.group, ?_⟩
    simp only [Counts, deepest_append, deepest_cons, deepest_nil] at count ⊢
    omega
  | negation factor ih =>
    obtain ⟨nesting, inside, count⟩ := ih
    refine ⟨nesting + 1, by simpa using inside.negation, ?_⟩
    simp only [Counts, deepest_append, deepest_cons, deepest_nil] at count ⊢
    omega

/-! ## Where a text nests too deep -/

/-- A text that nests more factors than are open at some depth comes to a factor that is due at that
depth. -/
theorem exists_awaits_of_derives {goal symbol : Symbol} {nesting around opened : Nat}
    {before kinds : List Kind} (derives : Derives symbol nesting kinds)
    (awaits : Awaits goal symbol around before) (reached : around ≤ opened)
    (deep : opened < around + nesting) :
    ∃ read rest, kinds = read ++ rest ∧ rest ≠ [] ∧
      Awaits goal .factor opened (before ++ read) := by
  induction derives generalizing around before with
  | empty => omega
  | @append inner outer first rest statement program first_ih rest_ih =>
    by_cases early : opened < around + inner
    · obtain ⟨read, left, rfl, more, due⟩ := first_ih awaits.statement reached early
      exact ⟨read, left ++ rest, by simp, by simp [more], due⟩
    · obtain ⟨read, left, rfl, more, due⟩ := rest_ih (awaits.append statement) reached (by omega)
      exact ⟨first ++ read, left, by simp, more, by simpa using due⟩
  | @assign nesting value expression ih =>
    obtain ⟨read, left, rfl, more, due⟩ := ih awaits.assign reached deep
    exact ⟨[letKind, nameKind, assignKind] ++ read, left ++ [semicolonKind], by simp, by simp,
      by simpa using due⟩
  | @print nesting value expression ih =>
    obtain ⟨read, left, rfl, more, due⟩ := ih awaits.print reached deep
    exact ⟨[printKind] ++ read, left ++ [semicolonKind], by simp, by simp, by simpa using due⟩
  | @operation inner outer left right operator first binary second first_ih second_ih =>
    by_cases early : opened < around + inner
    · obtain ⟨read, rest, rfl, more, due⟩ := first_ih awaits reached early
      exact ⟨read, rest ++ [operator] ++ right, by simp, by simp, due⟩
    · obtain ⟨read, rest, rfl, more, due⟩ :=
        second_ih (awaits.operation first binary) reached (by omega)
      exact ⟨left ++ [operator] ++ read, rest, by simp, more, by simpa using due⟩
  | factor factor ih => exact ih awaits.factor reached deep
  | @operand kind single =>
    obtain rfl : around = opened := by omega
    exact ⟨[], [kind], rfl, by simp, by simpa using awaits⟩
  | @group nesting kinds expression ih =>
    by_cases here : around = opened
    · subst here
      exact ⟨[], _, rfl, by simp, by simpa using awaits⟩
    · obtain ⟨read, left, rfl, more, due⟩ := ih awaits.group (by omega) (by omega)
      exact ⟨[openKind] ++ read, left ++ [closeKind], by simp, by simp, by simpa using due⟩
  | @negation nesting kinds factor ih =>
    by_cases here : around = opened
    · subst here
      exact ⟨[], _, rfl, by simp, by simpa using awaits⟩
    · obtain ⟨read, left, rfl, more, due⟩ := ih awaits.negation (by omega) (by omega)
      exact ⟨[minusKind] ++ read, left, by simp, more, by simpa using due⟩

/-- A program that has been read nests no more factors than may be open. -/
theorem Finished.nesting_le {source : TokenSource} {after : Recognizer} {nesting : Nat}
    (finished : Finished source.visible after) (derives : Derives .program nesting source.kinds) :
    nesting ≤ maxDepth := by
  obtain ⟨before, token, ends, progress, -⟩ := finished
  have kinds : source.kinds = before.map Token.kind := by
    simpa [ends] using TokenBuffer.kinds_of_visible progress.split
  rw [kinds] at derives
  refine Nat.le_of_not_lt fun deep => ?_
  have outermost : 0 ≤ maxDepth := Nat.zero_le _
  obtain ⟨read, rest, split, more, due⟩ :=
    exists_awaits_of_derives derives .start outermost (by omega)
  have room : Roomy .program read := by
    refine progress.passable read ?_ fun whole => more ?_
    · rw [split]
      exact List.prefix_append _ _
    · simpa [whole] using split
  exact absurd (room maxDepth due) (Nat.lt_irrefl _)

/-! ## The limit -/

variable {source : TokenSource} {marked : List (Kind × Nat)}

/-- The start rule returns on a program that nests less deep than factors may, and fails on others
because of that. -/
theorem invoke_of_enclosed (enclosed : Enclosed .program 0 marked)
    (kinds : marked.map Prod.fst = source.kinds) :
    let run := (grammar.parserUnder .failFast source).invoke "startRule"
    (deepest marked < maxDepth ∧ run.1 = .ok ()) ∨
      (maxDepth ≤ deepest marked ∧
        ∃ token ∈ source.visible, run.1 = .error (tooDeep token.position.line)) := by
  intro run
  obtain ⟨nesting, derives, count⟩ := enclosed.derives
  rw [kinds] at derives
  simp only [Counts] at count
  rcases invoke_startRule source with ⟨returned, finished⟩ | ⟨failure, failed, stops⟩
  · have shallow := finished.nesting_le derives
    refine .inl ⟨?_, returned⟩
    unfold maxDepth at shallow ⊢
    omega
  · cases stops with
    | rejected progress expectation =>
      exact absurd ⟨nesting, derives⟩ (not_derivable_of_expectation progress.split expectation)
    | @full token after depth before rest progress awaits =>
      rw [TokenBuffer.kinds_of_visible progress.split] at derives
      have deep := awaits.opened_lt derives
      refine .inr ⟨by omega, token, ?_, failed⟩
      rw [progress.split]
      simp

/-- The start rule, called under the fail-fast strategy on a program. Each of its kinds is enclosed
by some number of parentheses and signs. Where the greatest of these numbers is below the limit the
rule returns, and from the limit on it fails with a message that names the limit. -/
theorem startRule_nesting (source : TokenSource) (derivable : Derivable .program source.kinds) :
    let run := (grammar.parserUnder .failFast source).invoke "startRule"
    (∃ marked, Enclosed .program 0 marked ∧ marked.map Prod.fst = source.kinds) ∧
      ∀ marked, Enclosed .program 0 marked → marked.map Prod.fst = source.kinds →
        (deepest marked < maxDepth → run.1 = .ok ()) ∧
        (maxDepth ≤ deepest marked → ∃ token ∈ source.visible, run.1 = .error (.internal
          ("maximum nesting depth 256 exceeded at line " ++ toString token.position.line))) := by
  intro run
  obtain ⟨nesting, derives⟩ := derivable
  refine ⟨markable_of_derives derives, fun marked enclosed kinds => ?_⟩
  rcases invoke_of_enclosed enclosed kinds with ⟨shallow, returned⟩ | ⟨deep, failed⟩
  · exact ⟨fun _ => returned, fun deep => absurd deep (Nat.not_le_of_lt shallow)⟩
  · exact ⟨fun shallow => absurd deep (Nat.not_le_of_lt shallow), fun _ => failed⟩

/-! ### A number behind signs -/

/-- The words that print a number behind so many signs. -/
def negatedWords (count : Nat) : List (Kind × String) :=
  [(printKind, "print")] ++ List.replicate count (minusKind, "-") ++
    [(numberKind, "1"), (semicolonKind, ";")]

/-- A script of these words. -/
def negated (count : Nat) : TokenSource :=
  grammar.lexer (.ofText "negated" (joined (negatedWords count)))

/-- The number and the signs before it, enclosed by more and more signs. -/
def negatedMarks (around : Nat) : Nat → List (Kind × Nat)
  | 0 => [(numberKind, around)]
  | count + 1 => [(minusKind, around)] ++ negatedMarks (around + 1) count

/-- A number behind signs is a factor. -/
theorem enclosed_negatedMarks (around count : Nat) :
    Enclosed .factor around (negatedMarks around count) := by
  induction count generalizing around with
  | zero => exact .operand (by decide)
  | succ count ih => exact (ih (around + 1)).negation

/-- The signs stand before the number. -/
theorem map_negatedMarks (around count : Nat) :
    (negatedMarks around count).map Prod.fst =
      List.replicate count minusKind ++ [numberKind] := by
  induction count generalizing around with
  | zero => rfl
  | succ count ih => simp [negatedMarks, List.replicate_succ, ih]

/-- All signs enclose the number. -/
theorem deepest_negatedMarks (around count : Nat) :
    deepest (negatedMarks around count) = around + count := by
  induction count generalizing around with
  | zero => simp [negatedMarks]
  | succ count ih =>
    rw [negatedMarks, deepest_append, ih]
    simp only [deepest_cons, deepest_nil]
    omega

/-- The words that print a number behind signs are lexemes. -/
theorem isLexeme_negatedWords (count : Nat) :
    ∀ word ∈ negatedWords count, IsLexeme word.1 word.2.toList := by
  have keyword : IsLexeme printKind "print".toList :=
    ⟨(fits_name (by decide)).2 (.inr (.inl ⟨rfl, rfl⟩)), by decide, by decide⟩
  have sign : IsLexeme minusKind "-".toList :=
    ⟨(fits_sign (by decide) (by decide)).2 ⟨rfl, rfl⟩, by decide, by decide⟩
  have number : IsLexeme numberKind "1".toList :=
    ⟨(fits_digit (by decide)).2 ⟨rfl, nofun⟩, by decide, by decide⟩
  have semicolon : IsLexeme semicolonKind ";".toList :=
    ⟨(fits_sign (by decide) (by decide)).2 ⟨rfl, rfl⟩, by decide, by decide⟩
  simp only [negatedWords, List.forall_mem_append, List.forall_mem_cons, List.mem_replicate]
  refine ⟨⟨⟨keyword, nofun⟩, ?_⟩, number, semicolon, nofun⟩
  rintro word ⟨-, rfl⟩
  exact sign

/-- The kinds of the script are those of its words. -/
theorem kinds_negated (count : Nat) :
    (negated count).kinds = (negatedWords count).map Prod.fst := by
  have words : (negated count).words = negatedWords count := by
    apply words_joined (isLexeme_negatedWords count)
    rw [CharStream.rest_ofText, joined, String.toList_intercalate, List.map_map]
    rfl
  rw [← words, TokenSource.words, wordsOf, List.map_map]
  rfl

/-- An output of the number behind signs, each of its kinds with what encloses it. -/
def printedMarks (count : Nat) : List (Kind × Nat) :=
  [(printKind, 0)] ++ negatedMarks 0 count ++ [(semicolonKind, 0)]

/-- The marks are those of a program. -/
theorem enclosed_printedMarks (count : Nat) : Enclosed .program 0 (printedMarks count) := by
  have printed : Enclosed .statement 0 (printedMarks count) :=
    (enclosed_negatedMarks 0 count).factor.print
  simpa using printed.append .empty

/-- The script has the kinds that are marked. -/
theorem map_printedMarks (count : Nat) :
    (printedMarks count).map Prod.fst = (negated count).kinds := by
  simp [printedMarks, map_negatedMarks, kinds_negated, negatedWords]

/-- The script nests as deep as it has signs. -/
theorem deepest_printedMarks (count : Nat) : deepest (printedMarks count) = count := by
  simp [printedMarks, deepest_negatedMarks]

/-- The script is a program. -/
theorem derivable_negated (count : Nat) : Derivable .program (negated count).kinds := by
  obtain ⟨nesting, derives, -⟩ := (enclosed_printedMarks count).derives
  rw [map_printedMarks] at derives
  exact ⟨nesting, derives⟩

/-- A number behind one sign less than the limit is accepted. -/
theorem startRule_nesting_negated :
    Derivable .program (negated 255).kinds ∧
      Enclosed .program 0 (printedMarks 255) ∧
      (printedMarks 255).map Prod.fst = (negated 255).kinds ∧
      deepest (printedMarks 255) = 255 ∧
      ((grammar.parserUnder .failFast (negated 255)).invoke "startRule").1 = .ok () := by
  have shallow : deepest (printedMarks 255) < maxDepth := by
    rw [deepest_printedMarks]
    decide
  refine ⟨derivable_negated 255, enclosed_printedMarks 255, map_printedMarks 255,
    deepest_printedMarks 255, ?_⟩
  have decided := (startRule_nesting (negated 255) (derivable_negated 255)).2 (printedMarks 255)
    (enclosed_printedMarks 255) (map_printedMarks 255)
  exact decided.1 shallow

/-- A number behind as many signs as the limit is a program that nests no deeper than the limit, and
it is not accepted. -/
theorem not_startRule_nesting_at_limit :
    Derivable .program (negated 256).kinds ∧
      Enclosed .program 0 (printedMarks 256) ∧
      (printedMarks 256).map Prod.fst = (negated 256).kinds ∧
      deepest (printedMarks 256) ≤ maxDepth ∧
      ((grammar.parserUnder .failFast (negated 256)).invoke "startRule").1 ≠ .ok () := by
  have limit : deepest (printedMarks 256) = maxDepth := deepest_printedMarks 256
  refine ⟨derivable_negated 256, enclosed_printedMarks 256, map_printedMarks 256, limit.le, ?_⟩
  rcases invoke_of_enclosed (enclosed_printedMarks 256) (map_printedMarks 256) with
    ⟨shallow, -⟩ | ⟨-, token, -, failed⟩
  · exact absurd shallow (limit ▸ Nat.lt_irrefl _)
  · rw [failed]
    nofun

end Conformance.Snafu
