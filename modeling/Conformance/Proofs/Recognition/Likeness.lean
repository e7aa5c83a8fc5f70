import Conformance.Proofs.Recognition.Repair
import Conformance.Recognition.Parser
import Mathlib.Data.List.Forall2

/-!
# Two recognizers on alike tokens

Two recognizers read tokens that are alike pair by pair. What alike tokens have in common is at
least their kind, and nothing else of a token steers a recognizer. So the same steps take the same
decisions in both: they leave alike tokens, report errors at alike tokens, and fail for alike
reasons. Rules agree when they do so as well. They need not be the same rules, as each may have a
bound on its steps from its own buffer.
-/

namespace Conformance

/-- A likeness of tokens. -/
structure Likeness where
  /-- Two tokens are alike. -/
  alike : Token → Token → Prop
  /-- Alike tokens have the same kind. -/
  kind_eq : ∀ {token other : Token}, alike token other → token.kind = other.kind

namespace Likeness

variable {likeness : Likeness} {token other : Token}

/-- Of two alike tokens both end the input or none does. -/
theorem isEof_eq (same : likeness.alike token other) : token.isEof = other.isEof := by
  rw [Token.isEof, Token.isEof, likeness.kind_eq same]

/-- At two alike tokens a rule can resume or not. -/
theorem resumes_eq (same : likeness.alike token other) (follow : List Kind) :
    token.resumes follow = other.resumes follow := by
  rw [Token.resumes, Token.resumes, isEof_eq same, likeness.kind_eq same]

variable (likeness)

/-- Alike tokens have the same position. -/
def KeepsPosition : Prop :=
  ∀ token other, likeness.alike token other → token.position = other.position

/-- Two errors differ in nothing but their tokens, and these are alike. -/
structure Errors (error other : RecognitionError) : Prop where
  /-- The same went wrong. -/
  cause : error.cause = other.cause
  /-- The tokens found are alike. -/
  offending : likeness.alike error.offending other.offending
  /-- The same kinds would have been accepted. -/
  expected : error.expected = other.expected

/-- Two failures of rules are alike: both were cancelled by alike errors, or both are the rules'
own, with the same message where alike tokens have the same position. -/
inductive Failures : RuleFailure → RuleFailure → Prop
  /-- Both were cancelled. -/
  | cancelled {cause other : RecognitionError} (same : likeness.Errors cause other) :
    Failures (.cancelled cause) (.cancelled other)
  /-- Both failed for reasons of their own. -/
  | internal {message other : String} (same : likeness.KeepsPosition → message = other) :
    Failures (.internal message) (.internal other)

/-! ## What two buffers show -/

/-- Two buffers show tokens that are alike pair by pair. -/
structure Shows (pairs : List (Token × Token)) (input other : TokenBuffer) : Prop where
  /-- The first buffer shows the first tokens. -/
  first : input.Shows (pairs.map Prod.fst)
  /-- The second buffer shows the second tokens. -/
  second : other.Shows (pairs.map Prod.snd)
  /-- The tokens of a pair are alike. -/
  alike : ∀ pair ∈ pairs, likeness.alike pair.1 pair.2

variable {likeness}

/-- The pairs left when both first tokens are consumed; end tokens stay. -/
def consumption : List (Token × Token) → List (Token × Token)
  | [] => []
  | pair :: more => if pair.1.isEof then pair :: more else more

/-- Consuming leaves the last of the pairs. -/
theorem consumption_suffix (pairs : List (Token × Token)) : consumption pairs <:+ pairs := by
  cases pairs with
  | nil => exact List.suffix_refl _
  | cons pair more =>
    rw [consumption]
    split
    · exact List.suffix_refl _
    · exact List.suffix_cons pair more

/-- Consuming tokens that do not end the input leaves the others. -/
theorem consumption_of_going {pair : Token × Token} {more : List (Token × Token)}
    (going : pair.1.isEof = false) : consumption (pair :: more) = more := by
  rw [consumption, going, if_neg Bool.false_ne_true]

/-- The pairs from the first one on at whose tokens a rule can resume. -/
def resumption (follow : List Kind) (pairs : List (Token × Token)) : List (Token × Token) :=
  pairs.dropWhile fun pair => !pair.1.resumes follow

/-- Pairs at whose tokens a rule cannot resume are skipped. -/
theorem resumption_of_not_resumes {follow : List Kind} {pair : Token × Token}
    {more : List (Token × Token)} (further : pair.1.resumes follow = false) :
    resumption follow (pair :: more) = resumption follow more := by
  rw [resumption, List.dropWhile_cons_of_pos (by simp [further]), resumption]

/-- Pairs at whose tokens a rule can resume stay. -/
theorem resumption_of_resumes {follow : List Kind} {pair : Token × Token}
    {more : List (Token × Token)} (here : pair.1.resumes follow = true) :
    resumption follow (pair :: more) = pair :: more := by
  rw [resumption, List.dropWhile_cons_of_neg (by simp [here])]

/-- Among alike tokens the same are skipped. -/
theorem map_resumption (follow : List Kind) {pairs : List (Token × Token)}
    (alike : ∀ pair ∈ pairs, likeness.alike pair.1 pair.2) :
    (resumption follow pairs).map Prod.fst = Conformance.resumption follow (pairs.map Prod.fst) ∧
      (resumption follow pairs).map Prod.snd =
        Conformance.resumption follow (pairs.map Prod.snd) := by
  induction pairs with
  | nil => exact ⟨rfl, rfl⟩
  | cons pair more ih =>
    have same := resumes_eq (alike pair List.mem_cons_self) follow
    rw [List.map_cons, List.map_cons]
    cases here : pair.1.resumes follow with
    | true =>
      rw [resumption_of_resumes here, Conformance.resumption_of_resumes here,
        Conformance.resumption_of_resumes (same.symm.trans here)]
      exact ⟨rfl, rfl⟩
    | false =>
      rw [resumption_of_not_resumes here, Conformance.resumption_of_not_resumes here,
        Conformance.resumption_of_not_resumes (same.symm.trans here)]
      exact ih fun pair found => alike pair (List.mem_cons_of_mem _ found)

namespace Shows

variable {pair : Token × Token} {pairs more : List (Token × Token)} {input second : TokenBuffer}

/-- Some pair of tokens is always shown. -/
theorem exists_cons (shown : likeness.Shows pairs input second) :
    ∃ pair more, pairs = pair :: more := by
  apply List.exists_cons_of_length_pos
  have some := shown.first.terminated_tokens.length_pos
  rwa [List.length_map] at some

/-- No more tokens are shown than each buffer has room for behind its place. -/
theorem length_le (shown : likeness.Shows pairs input second) :
    pairs.length ≤ input.capacity - input.place ∧
      pairs.length ≤ second.capacity - second.place := by
  have room := shown.first.length_le
  have otherRoom := shown.second.length_le
  rw [List.length_map] at room otherRoom
  exact ⟨room, otherRoom⟩

/-- Looking ahead answers alike tokens. -/
theorem lookahead (shown : likeness.Shows pairs input second) (offset : Nat) :
    likeness.alike (input.lookahead offset).1 (second.lookahead offset).1 ∧
      likeness.Shows pairs (input.lookahead offset).2 (second.lookahead offset).2 := by
  obtain ⟨found, ahead⟩ := shown.first.lookahead offset
  obtain ⟨otherFound, otherAhead⟩ := shown.second.lookahead offset
  rw [List.length_map, List.getElem?_map] at found otherFound
  obtain ⟨pair, here, first⟩ := Option.map_eq_some_iff.1 found
  have second : pair.2 = (second.lookahead offset).1 := by simpa [here] using otherFound
  rw [← first, ← second]
  exact ⟨shown.alike pair (List.mem_of_getElem? here), ahead, otherAhead, shown.alike⟩

/-- Looking at the next tokens answers the first pair. -/
theorem next (shown : likeness.Shows (pair :: more) input second) :
    (input.lookahead 1).1 = pair.1 ∧ (second.lookahead 1).1 = pair.2 ∧
      likeness.Shows (pair :: more) (input.lookahead 1).2 (second.lookahead 1).2 := by
  have found := (shown.first.lookahead 1).1
  have otherFound := (shown.second.lookahead 1).1
  exact ⟨by simpa using found.symm, by simpa using otherFound.symm, (shown.lookahead 1).2⟩

/-- Consuming leaves the pairs behind the first one, unless that ends the input. -/
theorem consume (shown : likeness.Shows pairs input second) :
    likeness.Shows (consumption pairs) input.consume.2 second.consume.2 := by
  obtain ⟨pair, more, rfl⟩ := shown.exists_cons
  have left := shown.first.consume.2
  have otherLeft := shown.second.consume.2
  have ends := isEof_eq (shown.alike pair List.mem_cons_self)
  rw [← ends] at otherLeft
  refine ⟨?_, ?_, fun pair found => shown.alike pair ((consumption_suffix _).subset found)⟩
  · rw [consumption, apply_ite (List.map Prod.fst)]
    exact left
  · rw [consumption, apply_ite (List.map Prod.snd)]
    exact otherLeft

/-- Resuming leaves the pairs from the first one on at whose tokens a rule can resume. -/
theorem resume (shown : likeness.Shows pairs input second) (follow : List Kind) {fuel other : Nat}
    (enough : pairs.length ≤ fuel) (otherEnough : pairs.length ≤ other) :
    likeness.Shows (resumption follow pairs) (Strategy.resume follow fuel input)
      (Strategy.resume follow other second) := by
  obtain ⟨first, last⟩ := map_resumption follow shown.alike
  have left := shown.first.resume follow ((List.length_map Prod.fst).trans_le enough)
  have otherLeft := shown.second.resume follow ((List.length_map Prod.snd).trans_le otherEnough)
  refine ⟨first ▸ left, last ▸ otherLeft, fun pair found => shown.alike pair ?_⟩
  exact (List.dropWhile_suffix _).subset found

end Shows

/-! ## Two recognizers -/

variable (likeness)

/-- Two strategies of one kind have reported alike errors since the second was new and the first was
a former one. -/
inductive Strategies : Strategy → Strategy → Strategy → Prop
  /-- Both stop at the first error. -/
  | failFast : Strategies .failFast .failFast .failFast
  /-- Both repair errors. -/
  | recovering {earlier added others : Array RecognitionError}
    (same : List.Forall₂ likeness.Errors added.toList others.toList) :
    Strategies (.recovering earlier) (.recovering (earlier ++ added)) (.recovering others)

/-- Two recognizers with the same display names have alike tokens to come and so many constructs
open, and their strategies have reported alike errors. -/
structure Abreast (names : List String) (former : Strategy) (opened : Nat)
    (pairs : List (Token × Token)) (one two : Recognizer) : Prop where
  /-- The display names of the first one are these. -/
  vocabulary : one.vocabulary = names
  /-- The display names of the second one are these. -/
  otherVocabulary : two.vocabulary = names
  /-- So many constructs are open in the first one. -/
  depth : one.depth = opened
  /-- So many constructs are open in the second one. -/
  otherDepth : two.depth = opened
  /-- The tokens to come are alike. -/
  shown : likeness.Shows pairs one.input two.input
  /-- The errors reported are alike. -/
  strategy : likeness.Strategies former one.strategy two.strategy

variable {likeness}

/-- Strategies that repair errors report alike errors. -/
theorem Strategies.push (earlier : Array RecognitionError) {added others : Array RecognitionError}
    (reported : List.Forall₂ likeness.Errors added.toList others.toList)
    {error second : RecognitionError} (same : likeness.Errors error second) :
    likeness.Strategies (.recovering earlier) (.recovering ((earlier ++ added).push error))
      (.recovering (others.push second)) := by
  rw [Array.push_append]
  apply Strategies.recovering
  rw [Array.toList_push, Array.toList_push]
  exact List.rel_append reported (.cons same .nil)

namespace Abreast

variable {names : List String} {former : Strategy} {depth : Nat}
  {pairs left : List (Token × Token)} {one two : Recognizer} {input second : TokenBuffer}

/-- Recognizers stay abreast with other strategies that have reported alike errors, and other inputs
that show alike tokens. -/
theorem remake (abreast : likeness.Abreast names former depth pairs one two)
    {strategy other : Strategy} (strategies : likeness.Strategies former strategy other)
    (shown : likeness.Shows left input second) :
    likeness.Abreast names former depth left { one with strategy, input }
      { two with strategy := other, input := second } :=
  { abreast with shown, strategy := strategies }

/-- Recognizers stay abreast when their inputs move to alike tokens. -/
theorem move (abreast : likeness.Abreast names former depth pairs one two)
    (shown : likeness.Shows left input second) :
    likeness.Abreast names former depth left { one with input } { two with input := second } :=
  { abreast with shown }

/-- Recognizers stay abreast when the same constructs are opened or closed. -/
theorem of_depth (abreast : likeness.Abreast names former depth pairs one two)
    (change : Nat → Nat) :
    likeness.Abreast names former (change depth) pairs { one with depth := change one.depth }
      { two with depth := change two.depth } :=
  { abreast with
    depth := congrArg change abreast.depth
    otherDepth := congrArg change abreast.otherDepth }

end Abreast

/-! ## Two rules -/

variable {α β : Type}

variable (likeness) in
/-- Two runs end alike, in recognizers that are abreast with the last of some pairs to come. Where
they return, more may be known of these. -/
inductive Meet (names : List String) (former : Strategy) (depth : Nat)
    (pairs : List (Token × Token)) (reach : List (Token × Token) → Prop) :
    EStateM.Result RuleFailure Recognizer α → EStateM.Result RuleFailure Recognizer α → Prop
  /-- Both return. -/
  | returned {value second : α} {one two : Recognizer} {left : List (Token × Token)}
    (last : left <:+ pairs) (reached : reach left)
    (abreast : likeness.Abreast names former depth left one two) :
    Meet names former depth pairs reach (.ok value one) (.ok second two)
  /-- Both fail for alike reasons. -/
  | failed {failure second : RuleFailure} {one two : Recognizer} {left : List (Token × Token)}
    (last : left <:+ pairs) (same : likeness.Failures failure second)
    (abreast : likeness.Abreast names former depth left one two) :
    Meet names former depth pairs reach (.error failure one) (.error second two)

variable (likeness) in
/-- Two rules meet from any two recognizers that are abreast with some pairs to come. -/
def Agree (names : List String) (former : Strategy) (depth : Nat) (pairs : List (Token × Token))
    (reach : List (Token × Token) → Prop) (rule other : Rule α) : Prop :=
  ∀ one two : Recognizer, likeness.Abreast names former depth pairs one two →
    likeness.Meet names former depth pairs reach (rule one) (other two)

variable {names : List String} {former : Strategy} {depth : Nat} {pair : Token × Token}
  {pairs more : List (Token × Token)} {reach final : List (Token × Token) → Prop}

/-- Runs that meet at the end of fewer pairs meet at the end of more. -/
theorem Meet.of_suffix {left : List (Token × Token)}
    {ran second : EStateM.Result RuleFailure Recognizer α}
    (meet : likeness.Meet names former depth left reach ran second) (last : left <:+ pairs) :
    likeness.Meet names former depth pairs reach ran second := by
  cases meet with
  | returned shorter reached abreast => exact .returned (shorter.trans last) reached abreast
  | failed shorter same abreast => exact .failed (shorter.trans last) same abreast

namespace Agree

/-! ### Rules put together -/

/-- Returning agrees with returning. -/
theorem pure {value second : α} (reached : reach pairs) :
    likeness.Agree names former depth pairs reach (Pure.pure value : Rule α) (Pure.pure second) :=
  fun _ _ abreast => .returned (List.suffix_refl pairs) reached abreast

/-- Failing agrees with failing for an alike reason. -/
theorem throw {failure second : RuleFailure} (same : likeness.Failures failure second) :
    likeness.Agree names former depth pairs reach (MonadExcept.throw failure : Rule α)
      (MonadExcept.throw second) :=
  fun _ _ abreast => .failed (List.suffix_refl pairs) same abreast

/-- There are always tokens to come, and they are alike. -/
theorem of_cons {rule other : Rule α}
    (agree : ∀ pair more, pairs = pair :: more → likeness.alike pair.1 pair.2 →
      likeness.Agree names former depth pairs reach rule other) :
    likeness.Agree names former depth pairs reach rule other := by
  intro one two abreast
  obtain ⟨pair, more, rfl⟩ := abreast.shown.exists_cons
  exact agree pair more rfl (abreast.shown.alike pair List.mem_cons_self) one two abreast

/-- Less can be known of what is left. -/
theorem mono {rule other : Rule α}
    (agree : likeness.Agree names former depth pairs reach rule other)
    (weaker : ∀ left, left <:+ pairs → reach left → final left) :
    likeness.Agree names former depth pairs final rule other := by
  intro one two abreast
  have meet := agree one two abreast
  generalize rule one = ran at meet ⊢
  generalize other two = otherRan at meet ⊢
  cases meet with
  | returned last reached abreast => exact .returned last (weaker _ last reached) abreast
  | failed last same abreast => exact .failed last same abreast

/-- Rules that agree, followed by rules that agree on whatever is left, agree. -/
theorem bind {rule other : Rule α} {next further : α → Rule β}
    (first : likeness.Agree names former depth pairs reach rule other)
    (second : ∀ left, left <:+ pairs → reach left → ∀ value found,
      likeness.Agree names former depth left final (next value) (further found)) :
    likeness.Agree names former depth pairs final (rule >>= next) (other >>= further) := by
  intro one two abreast
  have meet := first one two abreast
  simp only [Bind.bind, EStateM.bind]
  generalize rule one = ran at meet ⊢
  generalize other two = otherRan at meet ⊢
  cases meet with
  | returned last reached abreast =>
    exact (second _ last reached _ _ _ _ abreast).of_suffix last
  | failed last same abreast => exact .failed last same abreast

/-- Choices on the same condition agree if the rules chosen do. -/
theorem ite {condition : Prop} [Decidable condition] {chosen other refused further : Rule α}
    (holds : condition → likeness.Agree names former depth pairs reach chosen other)
    (fails : ¬condition → likeness.Agree names former depth pairs reach refused further) :
    likeness.Agree names former depth pairs reach (if condition then chosen else refused)
      (if condition then other else further) := by
  by_cases decision : condition
  · rw [if_pos decision, if_pos decision]
    exact holds decision
  · rw [if_neg decision, if_neg decision]
    exact fails decision

/-- Rules that agree with one construct more open agree inside a nested construct. -/
theorem nested {body other : Rule α}
    (inner : likeness.Agree names former (depth + 1) pairs reach body other) :
    likeness.Agree names former depth pairs reach (Recognizer.nested body)
      (Recognizer.nested other) := by
  intro one two abreast
  have meet := inner _ _ (abreast.of_depth (· + 1))
  simp only [Recognizer.nested]
  generalize body { one with depth := one.depth + 1 } = ran at meet ⊢
  generalize other { two with depth := two.depth + 1 } = otherRan at meet ⊢
  cases meet with
  | returned last reached abreast => exact .returned last reached (abreast.of_depth (· - 1))
  | failed last same abreast => exact .failed last same (abreast.of_depth (· - 1))

/-! ### The steps of a recognizer -/

/-- Rules that agree on the next pair of tokens agree after looking at it. -/
theorem lookahead_bind {next further : Token → Rule α}
    (second : likeness.Agree names former depth (pair :: more) reach (next pair.1)
      (further pair.2)) :
    likeness.Agree names former depth (pair :: more) reach (Recognizer.lookahead 1 >>= next)
      (Recognizer.lookahead 1 >>= further) := by
  intro one two abreast
  obtain ⟨seen, otherSeen, ahead⟩ := abreast.shown.next
  have meet := second _ _ (abreast.move ahead)
  rw [← seen, ← otherSeen] at meet
  exact meet

/-- Rules that agree on the kind of the next tokens agree. -/
theorem peek_bind {next further : Kind → Rule α} (same : likeness.alike pair.1 pair.2)
    (second : likeness.Agree names former depth (pair :: more) reach (next pair.1.kind)
      (further pair.1.kind)) :
    likeness.Agree names former depth (pair :: more) reach (Recognizer.peek >>= next)
      (Recognizer.peek >>= further) := by
  have looking : likeness.Agree names former depth (pair :: more) reach
      (Recognizer.lookahead 1 >>= fun found => next found.kind)
      (Recognizer.lookahead 1 >>= fun found => further found.kind) := by
    apply lookahead_bind
    rw [← likeness.kind_eq same]
    exact second
  exact looking

/-- Consuming agrees with consuming. -/
theorem consume : likeness.Agree names former depth pairs (· = consumption pairs)
    Recognizer.consume Recognizer.consume := by
  intro one two abreast
  exact .returned (consumption_suffix pairs) rfl (abreast.move abreast.shown.consume)

/-- Rules that agree behind tokens that do not end the input agree from them on if both consume them
first. -/
theorem consume_bind (going : pair.1.isEof = false) {next further : Token → Rule α}
    (second : ∀ value found,
      likeness.Agree names former depth more final (next value) (further found)) :
    likeness.Agree names former depth (pair :: more) final (Recognizer.consume >>= next)
      (Recognizer.consume >>= further) := by
  refine consume.bind fun left last behind value found => ?_
  rw [consumption_of_going going] at behind
  exact behind ▸ second value found

/-- A token due that is missing is repaired alike. -/
theorem repairToken {one two : Recognizer}
    (abreast : likeness.Abreast names former depth pairs one two)
    {error second : RecognitionError} (same : likeness.Errors error second) :
    likeness.Meet names former depth pairs (fun _ => True)
      (one.settle (one.strategy.repairToken one.input error))
      (two.settle (two.strategy.repairToken two.input second)) := by
  have strategies := abreast.strategy
  generalize one.strategy = strategy at strategies ⊢
  generalize two.strategy = other at strategies ⊢
  cases strategies with
  | failFast =>
    exact .failed (List.suffix_refl pairs) (.cancelled same)
      (abreast.remake .failFast abreast.shown)
  | @recovering earlier added others reported =>
    have reports := Strategies.push earlier reported same
    have ends : error.offending.isEof = second.offending.isEof := isEof_eq same.offending
    simp only [Strategy.repairToken, ends, same.expected]
    by_cases finished : second.offending.isEof = true
    · simp only [if_pos finished, Option.any_none, Bool.false_eq_true, if_false]
      exact .returned (List.suffix_refl pairs) trivial (abreast.remake reports abreast.shown)
    · obtain ⟨alike, ahead⟩ := abreast.shown.lookahead 2
      simp only [if_neg finished, Option.any_some, likeness.kind_eq alike]
      by_cases fits : second.expected.contains (two.input.lookahead 2).1.kind = true
      · simp only [if_pos fits]
        exact .returned ((consumption_suffix _).trans (consumption_suffix pairs)) trivial
          (abreast.remake reports ahead.consume.consume)
      · simp only [if_neg fits]
        exact .returned (List.suffix_refl pairs) trivial (abreast.remake reports ahead)

/-- Taking a token that is due agrees with taking it. -/
theorem matchKind (kind : Kind) :
    likeness.Agree names former depth pairs (fun _ => True) (Recognizer.matchKind kind)
      (Recognizer.matchKind kind) := by
  refine of_cons fun pair more split same => split ▸ lookahead_bind ?_
  rw [likeness.kind_eq same]
  refine ite (fun _ => consume.mono fun _ _ _ => trivial) fun _ one two abreast =>
    repairToken abreast ⟨?_, same, rfl⟩
  rw [abreast.vocabulary, abreast.otherVocabulary]

/-- Rules that agree behind tokens that do not end the input agree from them on if they are due
first in both. -/
theorem matchKind_bind {kind : Kind} (same : likeness.alike pair.1 pair.2)
    (due : pair.1.kind = kind) (going : pair.1.isEof = false) {next further : Token → Rule α}
    (second : ∀ value found,
      likeness.Agree names former depth more final (next value) (further found)) :
    likeness.Agree names former depth (pair :: more) final (Recognizer.matchKind kind >>= next)
      (Recognizer.matchKind kind >>= further) := by
  have taken : likeness.Agree names former depth (pair :: more) (· = more)
      (Recognizer.matchKind kind) (Recognizer.matchKind kind) := by
    apply lookahead_bind
    rw [← likeness.kind_eq same]
    refine ite (fun _ => ?_) fun other => absurd due other
    exact consume.mono fun left _ behind => behind.trans (consumption_of_going going)
  exact taken.bind fun left _ behind value found => behind ▸ second value found

/-- A decision without an alternative is repaired alike. -/
theorem repairDecision {one two : Recognizer}
    (abreast : likeness.Abreast names former depth pairs one two)
    {error second : RecognitionError} (same : likeness.Errors error second) (follow : List Kind) :
    likeness.Meet names former depth pairs (· = resumption follow pairs)
      (one.settle (one.strategy.repairDecision one.input error follow))
      (two.settle (two.strategy.repairDecision two.input second follow)) := by
  have strategies := abreast.strategy
  generalize one.strategy = strategy at strategies ⊢
  generalize two.strategy = other at strategies ⊢
  cases strategies with
  | failFast =>
    exact .failed (List.suffix_refl pairs) (.cancelled same)
      (abreast.remake .failFast abreast.shown)
  | recovering reported =>
    obtain ⟨room, otherRoom⟩ := abreast.shown.length_le
    exact .returned (List.dropWhile_suffix _) rfl (abreast.remake (.push _ reported same)
      (abreast.shown.resume follow (by omega) (by omega)))

/-- Finding no viable alternative agrees with finding none, and resumes at alike tokens. -/
theorem noViableAlternative (expected follow : List Kind) :
    likeness.Agree names former depth pairs (· = resumption follow pairs)
      (Recognizer.noViableAlternative expected follow)
      (Recognizer.noViableAlternative expected follow) := by
  refine of_cons fun pair more split same => split ▸ lookahead_bind ?_
  intro one two abreast
  refine repairDecision abreast ?_ follow
  refine ⟨?_, same, rfl⟩
  simp only [isEof_eq same, abreast.vocabulary, abreast.otherVocabulary]

end Agree

end Likeness

end Conformance
