import Conformance.Proofs.Recognition.Likeness

/-!
# Two recognizers abreast

Two recognizers with different pasts may have the same tokens to come, but for the numbers that
their buffers gave them. Being the same but for the numbers is a likeness of tokens, so rules that
agree on alike tokens answer the same in both, report the same and leave the same tokens, but for
the numbers.
-/

namespace Conformance

/-! ## Tokens without their numbers -/

/-- The token as it was before a buffer numbered it. -/
def Token.bare (token : Token) : Token :=
  token.number 0

namespace Token

variable (token : Token)

/-- The kind of a token does not depend on its number. -/
@[simp] theorem kind_bare : token.bare.kind = token.kind := rfl

/-- Nor does its position. -/
@[simp] theorem position_bare : token.bare.position = token.position := rfl

/-- Numbering a token does not change what it was before. -/
@[simp] theorem bare_number (index : Nat) : (token.number index).bare = token.bare := rfl

/-- A token without its number is what it was before. -/
@[simp] theorem bare_bare : token.bare.bare = token.bare := rfl

/-- Tokens that are the same but for their numbers have the same kind. -/
theorem kind_eq_of_bare_eq {token other : Token} (same : token.bare = other.bare) :
    token.kind = other.kind := by
  rw [← kind_bare, same, kind_bare]

end Token

/-- The error with its token as it was before a buffer numbered it. -/
def RecognitionError.bare (error : RecognitionError) : RecognitionError :=
  { error with offending := error.offending.bare }

/-- The failure with its token, if it has one, as it was before a buffer numbered it. -/
def RuleFailure.bare : RuleFailure → RuleFailure
  | .cancelled cause => .cancelled cause.bare
  | other => other

/-- Tokens without their numbers are terminated like those with them. -/
theorem Terminated.map_bare {tokens : List Token} (terminated : Terminated tokens) :
    Terminated (tokens.map Token.bare) := by
  induction terminated with
  | last ends => exact .last ends
  | cons going _ ih => exact .cons going ih

/-! ## The likeness of tokens with different numbers -/

/-- Lists of equal images are those whose members have equal images one by one. -/
theorem forall₂_map_eq_iff {α β : Type} {f : α → β} {xs ys : List α} :
    List.Forall₂ (fun x y => f x = f y) xs ys ↔ xs.map f = ys.map f := by
  have equal : xs.map f = ys.map f ↔ List.Forall₂ Eq (xs.map f) (ys.map f) := by
    rw [List.forall₂_eq_eq_eq]
  rw [equal, List.forall₂_map_left_iff, List.forall₂_map_right_iff]

/-- Tokens are alike when they are the same but for their numbers. -/
def Likeness.bare : Likeness where
  alike token other := token.bare = other.bare
  kind_eq := Token.kind_eq_of_bare_eq

namespace Likeness

/-- Tokens that are the same but for their numbers have the same position. -/
theorem keepsPosition_bare : bare.KeepsPosition := by
  intro token other same
  have alike : token.bare = other.bare := same
  rw [← token.position_bare, alike, other.position_bare]

/-- Errors are alike when they are the same but for the numbers of their tokens. -/
theorem errors_bare_iff {error other : RecognitionError} :
    bare.Errors error other ↔ error.bare = other.bare := by
  constructor
  · rintro ⟨cause, offending, expected⟩
    have found : error.offending.bare = other.offending.bare := offending
    rw [RecognitionError.bare, RecognitionError.bare, cause, found, expected]
  · intro same
    injection same with cause offending expected
    exact ⟨cause, offending, expected⟩

/-- Reports are alike when they are the same but for the numbers of tokens. -/
theorem forall₂_errors_bare_iff {added others : Array RecognitionError} :
    List.Forall₂ bare.Errors added.toList others.toList ↔
      added.map RecognitionError.bare = others.map RecognitionError.bare := by
  have each : bare.Errors = fun error other => error.bare = other.bare := by
    funext error other
    exact propext errors_bare_iff
  rw [each, forall₂_map_eq_iff, ← Array.toList_map, ← Array.toList_map, Array.toList_inj]

/-- Failures that are alike are the same but for the numbers of their tokens. -/
theorem Failures.bare_eq {failure other : RuleFailure} (same : bare.Failures failure other) :
    failure.bare = other.bare := by
  cases same with
  | cancelled alike => exact congrArg RuleFailure.cancelled (errors_bare_iff.1 alike)
  | internal message => exact congrArg RuleFailure.internal (message keepsPosition_bare)

end Likeness

/-! ## What a buffer offers -/

namespace TokenBuffer

/-- The tokens that a buffer shows are these, but for their numbers. -/
def Offers (buffer : TokenBuffer) (rest : List Token) : Prop :=
  ∃ tokens, buffer.Shows tokens ∧ tokens.map Token.bare = rest

namespace Offers

variable {buffer : TokenBuffer} {token : Token} {rest : List Token}

/-- A script of what a buffer offers offers the same. -/
theorem script (offers : buffer.Offers rest) (label : String) :
    (ofSource (.script label rest)).Offers rest := by
  obtain ⟨tokens, shown, rfl⟩ := offers
  refine ⟨_, shows_ofSource _, ?_⟩
  have numbered := TokenSource.tokensFrom_script label shown.terminated_tokens.map_bare [] 0
  rw [List.append_nil] at numbered
  have seen : ∀ token ∈ (tokens.map Token.bare).mapIdx
      (fun offset token => token.number (0 + offset)), token.isSeen = true := by
    intro token found
    obtain ⟨offset, inside, rfl⟩ := List.mem_mapIdx.1 found
    have visible : ∀ token ∈ tokens, token.isSeen = true := by
      rw [← shown.visible]
      exact fun token among => (List.mem_filter.1 among).2
    have held : offset < tokens.length := by simpa using inside
    have here : tokens[offset].isSeen = true := visible _ (List.getElem_mem held)
    rw [List.getElem_map]
    exact here
  rw [TokenSource.visible, TokenSource.tokens, numbered, List.filter_eq_self.2 seen]
  refine List.ext_getElem (by simp) fun offset inside within => ?_
  simp

end Offers

end TokenBuffer

/-! ## Two recognizers -/

/-- Two strategies of one kind have reported the same since the second was new and the first was a
former one. -/
inductive Strategy.Abreast : Strategy → Strategy → Strategy → Prop
  /-- Both stop at the first error. -/
  | failFast : Abreast .failFast .failFast .failFast
  /-- Both repair errors. -/
  | recovering {earlier added others : Array RecognitionError}
    (same : added.map RecognitionError.bare = others.map RecognitionError.bare) :
    Abreast (.recovering earlier) (.recovering (earlier ++ added)) (.recovering others)

namespace Strategy

/-- A strategy of the same kind that has reported nothing. -/
def renewed : Strategy → Strategy
  | .failFast => .failFast
  | .recovering _ => .recover

/-- A strategy is abreast of a new one of its kind. -/
theorem abreast_renewed (strategy : Strategy) : strategy.Abreast strategy strategy.renewed := by
  cases strategy with
  | failFast => exact .failFast
  | recovering reported =>
    have none : Strategy.Abreast (.recovering reported) (.recovering (reported ++ #[])) .recover :=
      .recovering rfl
    rwa [Array.append_empty] at none

variable {former one two : Strategy}

/-- Strategies that are abreast are of the kind of the former one. -/
theorem Abreast.renewed_eq (abreast : former.Abreast one two) : one.renewed = former.renewed := by
  cases abreast <;> rfl

/-- What has been reported since by a strategy is what the new one has reported. -/
theorem Abreast.exists_added (abreast : former.Abreast one two) :
    ∃ added, one.reported = former.reported ++ added ∧
      added.map RecognitionError.bare = two.reported.map RecognitionError.bare := by
  cases abreast with
  | failFast => exact ⟨#[], rfl, rfl⟩
  | recovering same => exact ⟨_, rfl, same⟩

end Strategy

/-- A recognizer has some tokens to come, but for their numbers, with some display names and so many
constructs open. -/
structure Recognizer.Offers (recognizer : Recognizer) (names : List String) (opened : Nat)
    (rest : List Token) : Prop where
  /-- The display names are these. -/
  vocabulary : recognizer.vocabulary = names
  /-- So many constructs are open. -/
  depth : recognizer.depth = opened
  /-- These tokens are to come. -/
  input : recognizer.input.Offers rest

/-- Two recognizers offer the same, and their strategies are abreast. -/
structure Recognizer.Abreast (names : List String) (former : Strategy) (depth : Nat)
    (rest : List Token) (one other : Recognizer) : Prop where
  /-- What the first one offers. -/
  first : one.Offers names depth rest
  /-- What the second one offers. -/
  second : other.Offers names depth rest
  /-- The strategies are abreast. -/
  strategy : Strategy.Abreast former one.strategy other.strategy

/-- Recognizers that offer the same show alike tokens. -/
theorem Recognizer.Abreast.exists_pairs {names : List String} {former : Strategy} {depth : Nat}
    {rest : List Token} {one two : Recognizer} (abreast : one.Abreast names former depth rest two) :
    ∃ pairs, Likeness.bare.Abreast names former depth pairs one two ∧
      pairs.map (fun pair => pair.1.bare) = rest := by
  obtain ⟨tokens, shown, rfl⟩ := abreast.first.input
  obtain ⟨others, otherShown, same⟩ := abreast.second.input
  obtain ⟨size, alike⟩ := List.forall₂_iff_zip.1 (forall₂_map_eq_iff.2 same.symm)
  have firsts : (tokens.zip others).map Prod.fst = tokens := List.map_fst_zip size.le
  have seconds : (tokens.zip others).map Prod.snd = others := List.map_snd_zip size.ge
  refine ⟨tokens.zip others, ⟨abreast.first.vocabulary, abreast.second.vocabulary,
    abreast.first.depth, abreast.second.depth, ⟨firsts.symm ▸ shown, seconds.symm ▸ otherShown,
      fun pair found => alike found⟩, ?_⟩, ?_⟩
  · have strategies := abreast.strategy
    generalize one.strategy = strategy at strategies ⊢
    generalize two.strategy = other at strategies ⊢
    cases strategies with
    | failFast => exact .failFast
    | recovering reported => exact .recovering (Likeness.forall₂_errors_bare_iff.2 reported)
  · calc
      (tokens.zip others).map (fun pair => pair.1.bare) =
          ((tokens.zip others).map Prod.fst).map Token.bare := by
        rw [List.map_map]
        rfl
      _ = tokens.map Token.bare := by rw [firsts]

/-- Recognizers that show alike tokens offer the same. -/
theorem Likeness.Abreast.offer {names : List String} {former : Strategy} {depth : Nat}
    {pairs : List (Token × Token)} {one two : Recognizer}
    (abreast : Likeness.bare.Abreast names former depth pairs one two) :
    one.Abreast names former depth (pairs.map fun pair => pair.1.bare) two where
  first := ⟨abreast.vocabulary, abreast.depth, _, abreast.shown.first, List.map_map ..⟩
  second := by
    refine ⟨abreast.otherVocabulary, abreast.otherDepth, _, abreast.shown.second, ?_⟩
    rw [List.map_map]
    exact List.map_congr_left fun pair found => (abreast.shown.alike pair found).symm
  strategy := by
    have strategies := abreast.strategy
    generalize one.strategy = strategy at strategies ⊢
    generalize two.strategy = other at strategies ⊢
    cases strategies with
    | failFast => exact .failFast
    | recovering reported => exact .recovering (Likeness.forall₂_errors_bare_iff.1 reported)

namespace Rule

variable {α : Type} {names : List String} {former : Strategy} {depth : Nat} {rest : List Token}

/-- Two runs end alike, in recognizers that are abreast with the last of some tokens to come. Where
they return, more may be known of these. -/
inductive Meet (names : List String) (former : Strategy) (depth : Nat)
    (rest : List Token) (reach : List Token → Prop) : EStateM.Result RuleFailure Recognizer α →
      EStateM.Result RuleFailure Recognizer α → Prop
  /-- Both return. -/
  | returned {value second : α} {one two : Recognizer} {left : List Token}
    (last : left <:+ rest) (reached : reach left)
    (abreast : one.Abreast names former depth left two) :
    Meet names former depth rest reach (.ok value one) (.ok second two)
  /-- Both fail for the same reason. -/
  | failed {failure second : RuleFailure} {one two : Recognizer} {left : List Token}
    (last : left <:+ rest) (same : failure.bare = second.bare)
    (abreast : one.Abreast names former depth left two) :
    Meet names former depth rest reach (.error failure one) (.error second two)

/-- Rules that agree on tokens which are the same but for their numbers meet. -/
theorem Meet.of_agree {rule other : Rule α} {one two : Recognizer}
    (agree : ∀ pairs, Likeness.bare.Agree names former depth pairs (fun _ => True) rule other)
    (abreast : one.Abreast names former depth rest two) :
    Meet names former depth rest (fun _ => True) (rule one) (other two) := by
  obtain ⟨pairs, alongside, rfl⟩ := abreast.exists_pairs
  have meet := agree pairs one two alongside
  generalize rule one = ran at meet ⊢
  generalize other two = otherRan at meet ⊢
  cases meet with
  | returned last _ abreast => exact .returned (last.map _) trivial abreast.offer
  | failed last same abreast => exact .failed (last.map _) same.bare_eq abreast.offer

end Rule

/-! ## Parsers -/

namespace Parser

/-- The visible tokens that a parser has still to read, without their numbers. -/
def upcoming (parser : Parser) : List Token :=
  (parser.state.input.visibleFrom parser.state.input.place).map Token.bare

/-- The parser after calls of rules by their names, whatever they answered. -/
def after (parser : Parser) (calls : List String) : Parser :=
  calls.foldl (fun parser name => (parser.invoke name).2) parser

/-- The upcoming tokens are those that the input offers. -/
theorem upcoming_eq {parser : Parser} {rest : List Token}
    (offers : parser.state.input.Offers rest) : parser.upcoming = rest := by
  obtain ⟨tokens, shown, rfl⟩ := offers
  rw [upcoming, shown.visible]

end Parser

end Conformance
