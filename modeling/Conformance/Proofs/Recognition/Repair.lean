import Conformance.Proofs.Recognition.Standing
import Mathlib.Data.List.TakeWhile

/-!
# Repairs

The recovering strategy reports an error and goes on. Where a token is missing it drops the token
found, if the one due stands behind it, and makes the one due up otherwise; where no alternative
fits it skips to the first token on which the rule can resume. Either way one error is reported,
at the token that was found.
-/

namespace Conformance

/-- A rule can resume at a token that ends the input or is of a kind to resume on. -/
def Token.resumes (follow : List Kind) (token : Token) : Bool :=
  token.isEof || follow.contains token.kind

/-- The tokens from the first one on at which a rule can resume. -/
def resumption (follow : List Kind) (tokens : List Token) : List Token :=
  tokens.dropWhile fun token => !token.resumes follow

section

variable {follow : List Kind} {token : Token} {rest : List Token}

/-- A rule resumes at once where it can. -/
theorem resumption_of_resumes (here : token.resumes follow = true) :
    resumption follow (token :: rest) = token :: rest := by
  rw [resumption, List.dropWhile_cons_of_neg (by simp [here])]

/-- A token at which a rule cannot resume is skipped. -/
theorem resumption_of_not_resumes (further : token.resumes follow = false) :
    resumption follow (token :: rest) = resumption follow rest := by
  rw [resumption, List.dropWhile_cons_of_pos (by simp [further]), resumption]

/-- The tokens before the resumption are skipped, none of them being one to resume on. -/
theorem exists_skipped (follow : List Kind) (tokens : List Token) :
    ∃ skipped, tokens = skipped ++ resumption follow tokens ∧
      ∀ token ∈ skipped, token.kind ∉ follow := by
  refine ⟨_, (List.takeWhile_append_dropWhile (l := tokens)).symm, fun token skipped => ?_⟩
  have passed := List.mem_takeWhile_imp skipped
  simp only [Token.resumes, Bool.not_eq_true', Bool.or_eq_false_iff] at passed
  simpa using passed.2

end

/-- Where tokens end with the end token, those before the resumption are passed and the first one
of it is one to resume on. -/
theorem exists_resumption {tokens : List Token} (terminated : Terminated tokens)
    (follow : List Kind) :
    ∃ passed stop left, tokens = passed ++ stop :: left ∧
      resumption follow tokens = stop :: left ∧ stop.resumes follow = true ∧
      ∀ token ∈ passed, token.resumes follow = false := by
  induction tokens with
  | nil => exact absurd terminated.length_pos (Nat.lt_irrefl 0)
  | cons token rest ih =>
    cases here : token.resumes follow with
    | true => exact ⟨[], token, rest, rfl, resumption_of_resumes here, here, by simp⟩
    | false =>
      have going : token.isEof = false := (Bool.or_eq_false_iff.1 here).1
      obtain ⟨passed, stop, left, split, resumed, resumes, others⟩ := ih (terminated.tail going)
      exact ⟨token :: passed, stop, left, congrArg (token :: ·) split,
        (resumption_of_not_resumes here).trans resumed, resumes,
        List.forall_mem_cons.2 ⟨here, others⟩⟩

/-- Resuming on a buffer skips as many of the tokens that it shows, within as many steps as it
shows tokens. -/
theorem TokenBuffer.Shows.resume {buffer : TokenBuffer} {tokens : List Token}
    (shown : buffer.Shows tokens) (follow : List Kind) {fuel : Nat}
    (enough : tokens.length ≤ fuel) :
    (Strategy.resume follow fuel buffer).Shows (resumption follow tokens) := by
  induction fuel generalizing buffer tokens with
  | zero =>
    have some := shown.terminated_tokens.length_pos
    omega
  | succ fuel ih =>
    obtain ⟨token, rest, rfl⟩ := List.exists_cons_of_length_pos shown.terminated_tokens.length_pos
    obtain ⟨found, ahead⟩ := shown.lookahead 1
    have same : (buffer.lookahead 1).1 = token := by simpa using found.symm
    simp only [Strategy.resume, same]
    change (if token.resumes follow = true then _ else _ : TokenBuffer).Shows _
    cases here : token.resumes follow with
    | true =>
      rw [resumption_of_resumes here]
      exact ahead
    | false =>
      have going : token.isEof = false := (Bool.or_eq_false_iff.1 here).1
      have left : (buffer.lookahead 1).2.consume.2.Shows rest := by
        simpa [going] using ahead.consume.2
      rw [resumption_of_not_resumes here]
      exact ih left (by simpa using enough)

namespace Recognizer.Stands

open Rule

variable {recognizer : Recognizer} {reported : Array RecognitionError} {depth : Nat} {kind : Kind}
  {token extra : Token} {rest : List Token} {failed : RuleFailure → Recognizer → Prop}

/-- A superfluous token before the one due is reported and dropped, and the one due is taken. -/
theorem matchKind_drop
    (stands : recognizer.Stands (.recovering reported) depth (extra :: token :: rest))
    (going : extra.isEof = false) (other : extra.kind ≠ token.kind) :
    (Recognizer.matchKind token.kind).Ends recognizer
      (fun found after => found = token ∧
        after.Stands
          (.recovering (reported.push (.mismatchAt recognizer.vocabulary token.kind extra))) depth
          (if token.isEof then token :: rest else rest)) failed := by
  refine stands.lookahead_names.bind ?_
  rintro found after ⟨rfl, names, stands⟩
  refine Ends.ite (fun due => absurd due other) fun _ => ?_
  obtain ⟨seen, ahead⟩ := stands.shown.lookahead 2
  have second : (after.input.lookahead 2).1 = token := by simpa using seen.symm
  have dropped : (after.input.lookahead 2).2.consume.2.Shows (token :: rest) := by
    simpa [going] using ahead.consume.2
  obtain ⟨taken, left⟩ := dropped.consume
  unfold Ends
  simp only [stands.strategy, names, Strategy.repairToken, going, second]
  simp only [Bool.false_eq_true, ↓reduceIte, Option.any_some, List.contains_cons, beq_self_eq_true,
    Bool.true_or]
  exact ⟨taken, rfl, stands.depth, left⟩

/-- Where the token due does not stand behind the one found either, it is made up, and the one
found is reported and stays. -/
theorem matchKind_makeUp (stands : recognizer.Stands (.recovering reported) depth (token :: rest))
    (other : token.kind ≠ kind) (absent : ∀ next ∈ rest.head?, next.kind ≠ kind) :
    (Recognizer.matchKind kind).Ends recognizer
      (fun found after => found = Strategy.missing kind token.position ∧
        after.Stands (.recovering (reported.push (.mismatchAt recognizer.vocabulary kind token)))
          depth (token :: rest)) failed := by
  refine stands.lookahead_names.bind ?_
  rintro found after ⟨rfl, names, stands⟩
  refine Ends.ite (fun due => absurd due other) fun _ => ?_
  unfold Ends
  simp only [stands.strategy, names, Strategy.repairToken]
  cases ends : found.isEof with
  | true => exact ⟨rfl, rfl, stands.depth, stands.shown⟩
  | false =>
    obtain ⟨next, left, rfl⟩ :=
      List.exists_cons_of_length_pos (stands.shown.terminated_tokens.tail ends).length_pos
    obtain ⟨seen, ahead⟩ := stands.shown.lookahead 2
    have second : (after.input.lookahead 2).1 = next := by simpa using seen.symm
    have differs : next.kind ≠ kind := absent next rfl
    have unfit : (Option.any (fun token : Token => [kind].contains token.kind)
        (some (after.input.lookahead 2).1)) = false := by
      simpa [second] using differs
    simp only [Bool.false_eq_true, ↓reduceIte, unfit]
    exact ⟨rfl, rfl, stands.depth, ahead⟩

/-- Where no alternative fits, the token found is reported, and the rule goes on where it can
resume. -/
theorem noViableAlternative_resume
    (stands : recognizer.Stands (.recovering reported) depth (token :: rest))
    (expected follow : List Kind) :
    (Recognizer.noViableAlternative expected follow).Ends recognizer
      (fun _ after => after.Stands
        (.recovering (reported.push (.undecidedAt recognizer.vocabulary expected token))) depth
          (resumption follow (token :: rest))) failed := by
  refine stands.lookahead_names.bind ?_
  rintro found after ⟨rfl, names, stands⟩
  have room := stands.shown.length_le
  have resumed : (Strategy.resume follow (after.input.capacity + 1) after.input).Shows _ :=
    stands.shown.resume follow (by omega)
  unfold Ends
  simp only [stands.strategy, names]
  exact ⟨rfl, stands.depth, resumed⟩

end Recognizer.Stands

end Conformance
