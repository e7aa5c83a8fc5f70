import Conformance.Proofs.Token.Cursor
import Conformance.Recognition.Parser

/-!
# Where a recognizer stands

The rules of a parser see no more of their recognizer than the tokens that its input still shows,
its strategy and the number of open constructs. Each step of a recognizer is stated in these terms,
and the statements are put together along the rules: a rule ends well with a value or badly with a
failure, and either end says where the recognizer stands then.
-/

namespace Conformance

/-- The error at a token of another kind than the one due. -/
def RecognitionError.mismatchAt (vocabulary : List String) (kind : Kind) (token : Token) :
    RecognitionError :=
  ⟨.mismatch (Recognizer.describe vocabulary [kind]), token, [kind]⟩

/-- The error at a token that no alternative starts with. The kinds that would have been fit are
described, unless there are none or the input has ended. -/
def RecognitionError.undecidedAt (vocabulary : List String) (expected : List Kind)
    (token : Token) : RecognitionError :=
  ⟨if token.isEof || expected.isEmpty then .noViableAlternative
    else .mismatch (Recognizer.describe vocabulary expected), token, expected⟩

/-- The input of a recognizer shows some tokens, under a strategy and so many open constructs. -/
structure Recognizer.Stands (recognizer : Recognizer) (strategy : Strategy) (depth : Nat)
    (tokens : List Token) : Prop where
  /-- The strategy is in use. -/
  strategy : recognizer.strategy = strategy
  /-- So many constructs are open. -/
  depth : recognizer.depth = depth
  /-- The tokens are those to come. -/
  shown : recognizer.input.Shows tokens

namespace Rule

variable {α β : Type}

/-- A rule ends well or badly, and what is asked of its end holds. -/
def Ends (rule : Rule α) (recognizer : Recognizer) (returned : α → Recognizer → Prop)
    (failed : RuleFailure → Recognizer → Prop) : Prop :=
  match rule recognizer with
  | .ok value after => returned value after
  | .error failure after => failed failure after

namespace Ends

variable {rule : Rule α} {recognizer : Recognizer} {returned weaker : α → Recognizer → Prop}
  {failed : RuleFailure → Recognizer → Prop}

/-- A rule followed by another one ends as the second does where the first has ended well. -/
theorem bind {next : α → Rule β} {finished : β → Recognizer → Prop}
    (first : rule.Ends recognizer returned failed)
    (second : ∀ value after, returned value after → (next value).Ends after finished failed) :
    (rule >>= next).Ends recognizer finished failed := by
  unfold Ends at first ⊢
  simp only [Bind.bind, EStateM.bind]
  generalize rule recognizer = run at first ⊢
  cases run with
  | ok value after => exact second value after first
  | error failure after => exact first

/-- Less can be asked of an end. -/
theorem mono (ends : rule.Ends recognizer returned failed) {badly : RuleFailure → Recognizer → Prop}
    (well : ∀ value after, returned value after → weaker value after)
    (bad : ∀ failure after, failed failure after → badly failure after) :
    rule.Ends recognizer weaker badly := by
  unfold Ends at ends ⊢
  generalize rule recognizer = run at ends ⊢
  cases run with
  | ok value after => exact well value after ends
  | error failure after => exact bad failure after ends

/-- Returning ends well. -/
theorem pure {value : α} (here : returned value recognizer) :
    (Pure.pure value : Rule α).Ends recognizer returned failed :=
  here

/-- A choice ends as the rule chosen does. -/
theorem ite {condition : Prop} [Decidable condition] {other : Rule α}
    (chosen : condition → rule.Ends recognizer returned failed)
    (refused : ¬ condition → other.Ends recognizer returned failed) :
    Ends (if condition then rule else other) recognizer returned failed := by
  split
  · exact chosen ‹_›
  · exact refused ‹_›

/-- A rule inside a nested construct is run with one more open, which is closed at either end. -/
theorem nested
    (inner : rule.Ends { recognizer with depth := recognizer.depth + 1 }
      (fun value after => returned value { after with depth := after.depth - 1 })
      (fun failure after => failed failure { after with depth := after.depth - 1 })) :
    (Recognizer.nested rule).Ends recognizer returned failed := by
  unfold Ends at inner ⊢
  simp only [Recognizer.nested]
  generalize rule { recognizer with depth := recognizer.depth + 1 } = run at inner ⊢
  cases run with
  | ok value after => exact inner
  | error failure after => exact inner

end Ends

end Rule

namespace Recognizer.Stands

open Rule

variable {recognizer : Recognizer} {strategy : Strategy} {depth : Nat} {token : Token}
  {tokens rest : List Token} {failed : RuleFailure → Recognizer → Prop}

/-- Some token is always to come. -/
theorem exists_cons (stands : recognizer.Stands strategy depth tokens) :
    ∃ token rest, tokens = token :: rest :=
  List.exists_cons_of_length_pos stands.shown.terminated_tokens.length_pos

/-- Looking at the next token answers it and keeps the display names. -/
theorem lookahead_names (stands : recognizer.Stands strategy depth (token :: rest)) :
    (Recognizer.lookahead 1).Ends recognizer
      (fun found after => found = token ∧ after.vocabulary = recognizer.vocabulary ∧
        after.Stands strategy depth (token :: rest)) failed := by
  obtain ⟨found, shown⟩ := stands.shown.lookahead 1
  have same : (recognizer.input.lookahead 1).1 = token := by simpa using found.symm
  exact ⟨same, rfl, stands.strategy, stands.depth, shown⟩

/-- Looking at the next token answers it. -/
theorem lookahead (stands : recognizer.Stands strategy depth (token :: rest)) :
    (Recognizer.lookahead 1).Ends recognizer
      (fun found after => found = token ∧ after.Stands strategy depth (token :: rest)) failed :=
  stands.lookahead_names.mono (fun _ _ looked => ⟨looked.1, looked.2.2⟩) fun _ _ bad => bad

/-- Peeking answers the kind of the next token. -/
theorem peek (stands : recognizer.Stands strategy depth (token :: rest)) :
    Recognizer.peek.Ends recognizer
      (fun kind after => kind = token.kind ∧ after.Stands strategy depth (token :: rest))
      failed := by
  obtain ⟨found, shown⟩ := stands.shown.lookahead 1
  have same : (recognizer.input.lookahead 1).1 = token := by simpa using found.symm
  exact ⟨congrArg Token.kind same, stands.strategy, stands.depth, shown⟩

/-- Consuming a token that does not end the input leaves the others. -/
theorem consume (stands : recognizer.Stands strategy depth (token :: rest))
    (going : token.isEof = false) :
    Recognizer.consume.Ends recognizer
      (fun found after => found = token ∧ after.Stands strategy depth rest) failed := by
  obtain ⟨found, shown⟩ := stands.shown.consume
  have left : recognizer.input.consume.2.Shows rest := by simpa [going] using shown
  exact ⟨found, stands.strategy, stands.depth, left⟩

/-- A token of the kind due is taken, the end token staying. -/
theorem matchKind_of_eq (stands : recognizer.Stands strategy depth (token :: rest)) :
    (Recognizer.matchKind token.kind).Ends recognizer
      (fun found after => found = token ∧
        after.Stands strategy depth (if token.isEof then token :: rest else rest)) failed := by
  refine stands.lookahead.bind ?_
  rintro found after ⟨rfl, stands⟩
  refine Ends.ite (fun _ => ?_) fun other => absurd rfl other
  obtain ⟨found, shown⟩ := stands.shown.consume
  exact ⟨found, stands.strategy, stands.depth, shown⟩

/-- The fail-fast strategy cancels a rule at a token of another kind than the one due, which it
leaves. -/
theorem matchKind_of_ne (stands : recognizer.Stands .failFast depth (token :: rest)) {kind : Kind}
    (other : token.kind ≠ kind) {returned : Token → Recognizer → Prop} :
    (Recognizer.matchKind kind).Ends recognizer returned fun failure after =>
      failure = .cancelled (.mismatchAt recognizer.vocabulary kind token) ∧
        after.Stands .failFast depth (token :: rest) := by
  refine stands.lookahead_names.bind ?_
  rintro found after ⟨rfl, names, stands⟩
  refine Ends.ite (fun due => absurd due other) fun _ => ?_
  unfold Ends
  simp only [stands.strategy, names]
  exact ⟨rfl, rfl, stands.depth, stands.shown⟩

/-- The fail-fast strategy cancels a rule at a token that no alternative starts with, and leaves
it. -/
theorem noViableAlternative (stands : recognizer.Stands .failFast depth (token :: rest))
    (expected follow : List Kind) {returned : Unit → Recognizer → Prop} :
    (Recognizer.noViableAlternative expected follow).Ends recognizer returned fun failure after =>
      failure = .cancelled (.undecidedAt recognizer.vocabulary expected token) ∧
        after.Stands .failFast depth (token :: rest) := by
  refine stands.lookahead_names.bind ?_
  rintro found after ⟨rfl, names, stands⟩
  unfold Ends
  simp only [stands.strategy, names]
  exact ⟨rfl, rfl, stands.depth, stands.shown⟩

end Recognizer.Stands

/-- A call of a rule by its name ends as the rule does. -/
theorem Parser.invoke_of_ends (parser : Parser) (name : String)
    {returned : Unit → Recognizer → Prop} {failed : RuleFailure → Recognizer → Prop}
    (ends : (parser.rule name).Ends parser.state returned failed) :
    ((parser.invoke name).1 = .ok () ∧ returned () (parser.invoke name).2.state) ∨
      ∃ failure, (parser.invoke name).1 = .error failure ∧
        failed failure (parser.invoke name).2.state := by
  unfold Rule.Ends at ends
  unfold Parser.invoke
  generalize parser.rule name parser.state = run at ends ⊢
  cases run with
  | ok value after => exact .inl ⟨rfl, ends⟩
  | error failure after => exact .inr ⟨failure, rfl, ends⟩

end Conformance
