import Conformance.Proofs.Grammar.FirstError
import Conformance.Proofs.Grammar.Lexing
import Conformance.Proofs.Recognition.Standing

/-!
# The verdict on a sentence

A text is a sentence of Word when it is made of words and blanks, a semicolon, and blanks. A parser
that stops at the first error accepts these texts and no others. Any other text it rejects at the
first character that departs from this form, or at its end when there is no semicolon.

The characters before the semicolon are cut into words and blanks. Only where the run of them ends
matters, so the lexer is followed along the text, from one stream to the one behind a piece.
-/

namespace Conformance

/-! ## Moving along a text -/

/-- A stream has moved behind a piece of its text. -/
structure CharStream.Passes (before : CharStream) (piece : List Char) (after : CharStream) :
    Prop where
  /-- The piece is the next one. -/
  rest : before.rest = piece ++ after.rest
  /-- The stream stands behind it. -/
  position : after.position = before.position.after piece

namespace CharStream.Passes

variable {first second third : CharStream} {piece further : List Char}

/-- A stream that has not moved has passed nothing. -/
theorem refl (stream : CharStream) : stream.Passes [] stream :=
  ⟨rfl, rfl⟩

/-- Two pieces are passed one after the other. -/
theorem trans (one : first.Passes piece second) (two : second.Passes further third) :
    first.Passes (piece ++ further) third where
  rest := by rw [one.rest, two.rest, List.append_assoc]
  position := by rw [two.position, one.position, Position.after_append]

/-- A piece that is not empty leaves less of the text. -/
theorem length_rest_lt {c : Char} (passes : first.Passes (c :: piece) second) :
    second.rest.length < first.rest.length := by
  rw [passes.rest, List.length_append, List.length_cons]
  omega

/-- A run of characters is passed when a piece of it and the run behind that piece are. -/
theorem run {inClass : Char → Bool} (one : first.Passes piece second)
    (inside : ∀ c ∈ piece, inClass c = true)
    (two : second.Passes (second.rest.takeWhile inClass) third) :
    first.Passes (first.rest.takeWhile inClass) third := by
  rw [one.rest, List.takeWhile_append_of_pos inside]
  exact one.trans two

/-- Taking characters passes them. -/
theorem take (stream : CharStream) (count : Nat) :
    stream.Passes (stream.rest.take count) (stream.take count).2 where
  rest := (List.take_append_drop count stream.rest).symm
  position := rfl

end CharStream.Passes

/-! ## What parsers see of a lexer -/

namespace LexicalGrammar

variable {grammar : LexicalGrammar} {stream : CharStream} {tokens : List Token} {c : Char}
  {rest : List Char}

/-- Before the end, the next token has the kind that is scanned, on the channel of that kind, and
its lexeme is passed. -/
theorem scan_next (grammar : LexicalGrammar) (going : stream.rest = c :: rest) :
    (grammar.next stream).1.kind = (grammar.scan c rest).1 ∧
      (grammar.next stream).1.isHidden = grammar.isHidden (grammar.scan c rest).1 ∧
      (grammar.next stream).1.position = stream.position ∧
      stream.Passes (c :: rest.take (grammar.scan c rest).2) (grammar.next stream).2 := by
  rw [next_of_rest_cons going]
  refine ⟨kind_token, isHidden_token, position_token, ?_⟩
  have passes := CharStream.Passes.take stream ((grammar.scan c rest).2 + 1)
  rwa [going, List.take_succ_cons] at passes

/-- The tokens that parsers see of a lexer from its place on. -/
def Presents (grammar : LexicalGrammar) (stream : CharStream) (tokens : List Token) : Prop :=
  ∃ number, tokens = ((TokenSource.lexer grammar stream).tokensFrom number).filter Token.isSeen

namespace Presents

/-- At the end of the text only the end token is seen. -/
theorem finished (presents : grammar.Presents stream tokens) (used : stream.rest = []) :
    ∃ token, tokens = [token] ∧ token.isEof = true ∧ token.position = stream.position := by
  obtain ⟨number, rfl⟩ := presents
  have next : (TokenSource.lexer grammar stream).next.1 = Token.eof stream.position :=
    congrArg Prod.fst (grammar.next_of_rest_nil used)
  rw [TokenSource.tokensFrom, next, if_pos (Token.isEof_eof _)]
  exact ⟨_, rfl, rfl, rfl⟩

/-- Before the end of the text the next token comes first. -/
theorem eq_filter_cons (presents : grammar.Presents stream tokens)
    (going : (grammar.next stream).1.isEof = false) :
    ∃ number, tokens = ((grammar.next stream).1.number number ::
      (TokenSource.lexer grammar (grammar.next stream).2).tokensFrom (number + 1)).filter
        Token.isSeen := by
  obtain ⟨number, rfl⟩ := presents
  have running : (TokenSource.lexer grammar stream).next.1.isEof = false := going
  refine ⟨number, ?_⟩
  rw [TokenSource.tokensFrom, if_neg (Bool.eq_false_iff.1 running)]
  rfl

/-- A hidden token is not seen. -/
theorem hidden (presents : grammar.Presents stream tokens)
    (going : (grammar.next stream).1.isEof = false)
    (unseen : (grammar.next stream).1.isHidden = true) :
    grammar.Presents (grammar.next stream).2 tokens := by
  obtain ⟨number, rfl⟩ := presents.eq_filter_cons going
  exact ⟨number + 1, List.filter_cons_of_neg (by simp [Token.isSeen, going, unseen])⟩

/-- A visible token is seen before what comes behind it. -/
theorem visible (presents : grammar.Presents stream tokens)
    (going : (grammar.next stream).1.isEof = false)
    (seen : (grammar.next stream).1.isHidden = false) :
    ∃ number others, tokens = (grammar.next stream).1.number number :: others ∧
      grammar.Presents (grammar.next stream).2 others := by
  obtain ⟨number, rfl⟩ := presents.eq_filter_cons going
  exact ⟨number, _, List.filter_cons_of_pos (by simp [Token.isSeen, seen]), number + 1, rfl⟩

end Presents

end LexicalGrammar

namespace Word

open Rule

/-! ## Runs of characters -/

/-- A run of characters of a class ends before the first one outside. -/
theorem takeWhile_eq_of_stop {inClass : Char → Bool} {run behind : List Char}
    (inside : ∀ c ∈ run, inClass c = true) (stop : ∀ c ∈ behind.head?, inClass c = false) :
    (run ++ behind).takeWhile inClass = run := by
  rw [List.takeWhile_append_of_pos inside]
  cases behind with
  | nil => simp
  | cons c behind =>
    rw [List.takeWhile_cons_of_neg (Bool.eq_false_iff.1 (stop c rfl)), List.append_nil]

/-- A text starts with a run of the characters of a class. -/
theorem exists_run (inClass : Char → Bool) (text : List Char) :
    ∃ run behind, text = run ++ behind ∧ (∀ c ∈ run, inClass c = true) ∧
      ∀ c ∈ behind.head?, inClass c = false := by
  refine ⟨text.takeWhile inClass, text.dropWhile inClass,
    List.takeWhile_append_dropWhile.symm, fun _ => List.mem_takeWhile_imp, fun c first => ?_⟩
  have stops := List.head?_dropWhile_not inClass text
  rwa [Option.mem_def.1 first] at stops

variable {stream : CharStream} {tokens : List Token} {c : Char} {rest : List Char}

/-! ## The lexer of Word along a text -/

/-- No letter is blank. -/
theorem isLower_eq_false (blank : Text.isBlank c = true) : c.isLower = false := by
  rw [Bool.eq_false_iff]
  intro letter
  have lower : c.isLower = (decide ('a' ≤ c) && decide (c ≤ 'z')) := rfl
  rw [lower, Bool.and_eq_true, decide_eq_true_eq, decide_eq_true_eq] at letter
  have least : 97 ≤ c.toNat := UInt32.le_iff_toNat_le.1 letter.1
  have most : c.toNat ≤ 122 := UInt32.le_iff_toNat_le.1 letter.2
  simp only [Text.isBlank, Bool.or_eq_true, Bool.and_eq_true, decide_eq_true_eq,
    beq_iff_eq] at blank
  omega

/-- A character that may stand before the semicolon. -/
def leads (c : Char) : Bool :=
  c.isLower || Text.isBlank c

/-- A letter starts a word. -/
theorem scan_letter (letter : c.isLower = true) (rest : List Char) :
    scan c rest = (wordKind, (rest.takeWhile Char.isLower).length) := by
  simp [scan, letter]

/-- What may not stand before the semicolon is the semicolon or covered by no terminal. -/
theorem scan_stop (stop : leads c = false) (rest : List Char) :
    scan c rest = (if c = ';' then semicolonKind else .invalid, 0) := by
  obtain ⟨letter, blank⟩ := Bool.or_eq_false_iff.1 stop
  by_cases semicolon : c = ';'
  · simp [scan, semicolon]
  · simp [scan, letter, semicolon, blank]

/-- A blank is a hidden token of its own. -/
theorem scan_blank (blank : Text.isBlank c = true) (rest : List Char) :
    scan c rest = (blankKind, 0) := by
  have other : c ≠ ';' := by
    rintro rfl
    exact absurd blank (by decide)
  simp [scan, isLower_eq_false blank, other, blank]

/-- Nothing but a blank is hidden. -/
theorem isHidden_scan (solid : Text.isBlank c = false) (rest : List Char) :
    lexical.isHidden (scan c rest).1 = false := by
  have apart : lexical.isHidden wordKind = false ∧ lexical.isHidden semicolonKind = false ∧
      lexical.isHidden .invalid = false := by decide
  unfold scan
  by_cases letter : c.isLower = true
  · rw [if_pos letter]
    exact apart.1
  by_cases semicolon : (c == ';') = true
  · rw [if_neg letter, if_pos semicolon]
    exact apart.2.1
  · rw [if_neg letter, if_neg semicolon, if_neg (by simp [solid])]
    exact apart.2.2

/-- The next token of a text does not end it. -/
theorem isEof_next (going : stream.rest = c :: rest) :
    (lexical.next stream).1.isEof = false := by
  have endless : (lexical.scan c rest).1 ≠ .eof := Grammar.word_scan_ne_eof c rest
  simpa [Token.isEof, (lexical.scan_next going).1] using endless

/-- A blank is passed without being seen. -/
theorem presents_blank (presents : lexical.Presents stream tokens) (going : stream.rest = c :: rest)
    (blank : Text.isBlank c = true) :
    ∃ ahead, stream.Passes [c] ahead ∧ lexical.Presents ahead tokens := by
  obtain ⟨-, channel, -, passes⟩ := lexical.scan_next going
  have scanned : lexical.scan c rest = (blankKind, 0) := scan_blank blank rest
  rw [scanned] at channel passes
  exact ⟨_, passes, presents.hidden (isEof_next going) channel⟩

/-- Any other character starts a token that is seen. -/
theorem presents_solid (presents : lexical.Presents stream tokens) (going : stream.rest = c :: rest)
    (solid : Text.isBlank c = false) :
    ∃ token others ahead, tokens = token :: others ∧ token.kind = (scan c rest).1 ∧
      token.position = stream.position ∧ stream.Passes (c :: rest.take (scan c rest).2) ahead ∧
      lexical.Presents ahead others := by
  obtain ⟨kind, channel, position, passes⟩ := lexical.scan_next going
  obtain ⟨number, others, rfl, behind⟩ :=
    presents.visible (isEof_next going) (channel.trans (isHidden_scan solid rest))
  exact ⟨_, others, _, rfl, kind, position, passes, behind⟩

/-- A word is seen as one token, whose characters may stand before the semicolon. -/
theorem presents_word (presents : lexical.Presents stream tokens) (going : stream.rest = c :: rest)
    (letter : c.isLower = true) :
    ∃ token others piece ahead, tokens = token :: others ∧ token.kind = wordKind ∧
      (∀ d ∈ c :: piece, leads d = true) ∧ stream.Passes (c :: piece) ahead ∧
      lexical.Presents ahead others := by
  have solid : Text.isBlank c = false := by
    cases blank : Text.isBlank c with
    | false => rfl
    | true => exact absurd letter (Bool.eq_false_iff.1 (isLower_eq_false blank))
  obtain ⟨token, others, ahead, split, kind, -, passes, behind⟩ :=
    presents_solid presents going solid
  rw [scan_letter letter] at kind passes
  rw [← List.prefix_iff_eq_take.1 (List.takeWhile_prefix Char.isLower)] at passes
  refine ⟨token, others, _, ahead, split, kind, ?_, passes, behind⟩
  refine List.forall_mem_cons.2 ⟨by simp [leads, letter], fun d found => ?_⟩
  simp [leads, List.mem_takeWhile_imp found]

/-- What may not stand before the semicolon is seen as a token of its own. -/
theorem presents_stop (presents : lexical.Presents stream tokens) (going : stream.rest = c :: rest)
    (stop : leads c = false) :
    ∃ token others ahead, tokens = token :: others ∧
      token.kind = (if c = ';' then semicolonKind else .invalid) ∧
      token.position = stream.position ∧ stream.Passes [c] ahead ∧
      lexical.Presents ahead others := by
  have solid : Text.isBlank c = false := (Bool.or_eq_false_iff.1 stop).2
  have seen := presents_solid presents going solid
  rwa [scan_stop stop] at seen

/-- At the end of the text or before a character that may not stand before the semicolon, no word is
seen, and the semicolon only where it stands. -/
theorem presents_front (presents : lexical.Presents stream tokens)
    (stop : ∀ c ∈ stream.rest.head?, leads c = false) :
    ∃ token others, tokens = token :: others ∧ token.kind ≠ wordKind ∧
      (token.kind = semicolonKind → stream.rest.head? = some ';') ∧
      token.position = stream.position := by
  match going : stream.rest with
  | [] =>
    obtain ⟨token, rfl, ends, position⟩ := presents.finished going
    have kind : token.kind = .eof := by simpa [Token.isEof] using ends
    exact ⟨token, [], rfl, kind ▸ by decide, kind ▸ by decide, position⟩
  | c :: rest =>
    rw [going] at stop
    obtain ⟨token, others, -, rfl, kind, position, -, -⟩ :=
      presents_stop presents going (stop c rfl)
    refine ⟨token, others, rfl, ?_, fun semicolon => ?_, position⟩
    · rw [kind]
      split <;> decide
    · rw [kind] at semicolon
      split at semicolon
      · rename_i same
        rw [same]
        rfl
      · exact absurd semicolon (by decide)

/-- Blanks are passed without being seen. -/
theorem presents_blanks {stream : CharStream} (presents : lexical.Presents stream tokens) :
    ∃ ahead, stream.Passes (stream.rest.takeWhile Text.isBlank) ahead ∧
      lexical.Presents ahead tokens := by
  match going : stream.rest with
  | [] => exact ⟨stream, .refl stream, presents⟩
  | c :: rest =>
    cases blank : Text.isBlank c with
    | false =>
      rw [List.takeWhile_cons_of_neg (Bool.eq_false_iff.1 blank)]
      exact ⟨stream, .refl stream, presents⟩
    | true =>
      obtain ⟨next, passes, behind⟩ := presents_blank presents going blank
      have shorter := passes.length_rest_lt
      obtain ⟨ahead, further, presents⟩ := presents_blanks behind
      rw [← going]
      exact ⟨ahead, passes.run (by simp [blank]) further, presents⟩
termination_by stream.rest.length

/-! ## Sentences -/

variable {recognizer : Recognizer} {strategy : Strategy} {depth turns : Nat}
  {failed : RuleFailure → Recognizer → Prop}

/-- The words of a sentence end before a token that is none. -/
theorem ends_words_stop {token : Token} {others : List Token}
    (stands : recognizer.Stands strategy depth (token :: others)) (other : token.kind ≠ wordKind) :
    (words turns).Ends recognizer
      (fun _ after => after.Stands strategy depth (token :: others)) failed := by
  cases turns with
  | zero => exact Ends.pure stands
  | succ turns =>
    refine stands.peek.bind ?_
    rintro _ after ⟨rfl, stands⟩
    exact Ends.ite (fun word => absurd word other) fun _ => Ends.pure stands

/-- A word is taken before the further ones. -/
theorem ends_words_succ {token : Token} {others : List Token}
    {returned : Unit → Recognizer → Prop}
    (stands : recognizer.Stands strategy depth (token :: others)) (word : token.kind = wordKind)
    (further : ∀ after : Recognizer, after.Stands strategy depth others →
      (words turns).Ends after returned failed) :
    (words (turns + 1)).Ends recognizer returned failed := by
  have running : token.isEof = false := by
    rw [Token.isEof, word]
    rfl
  refine stands.peek.bind ?_
  rintro _ after ⟨rfl, stands⟩
  refine Ends.ite (fun _ => ?_) fun other => absurd word other
  exact (stands.consume running).bind fun _ after taken => further after taken.2

/-- The words of a sentence are taken as far as characters go on that may stand there. A blank is
passed without a turn, so the recursion is on the text. -/
theorem ends_words {stream : CharStream} {tokens : List Token} {recognizer : Recognizer}
    {turns : Nat} (presents : lexical.Presents stream tokens)
    (stands : recognizer.Stands strategy depth tokens) (enough : tokens.length ≤ turns) :
    (words turns).Ends recognizer
      (fun _ after => ∃ ahead left, stream.Passes (stream.rest.takeWhile leads) ahead ∧
        lexical.Presents ahead left ∧ after.Stands strategy depth left) failed := by
  by_cases stop : ∀ c ∈ stream.rest.head?, leads c = false
  · obtain ⟨token, others, rfl, other, -, -⟩ := presents_front presents stop
    have none := takeWhile_eq_of_stop (List.forall_mem_nil _) stop
    rw [List.nil_append] at none
    rw [none]
    exact (ends_words_stop stands other).mono
      (fun _ _ stands => ⟨stream, _, .refl stream, presents, stands⟩) fun _ _ bad => bad
  simp only [not_forall, Bool.not_eq_false] at stop
  obtain ⟨c, first, leading⟩ := stop
  obtain ⟨rest, going⟩ := List.head?_eq_some_iff.1 first
  rcases Bool.or_eq_true_iff.1 leading with letter | blank
  · obtain ⟨token, others, piece, next, rfl, kind, inside, passes, behind⟩ :=
      presents_word presents going letter
    have shorter := passes.length_rest_lt
    rw [List.length_cons] at enough
    obtain ⟨turns, rfl⟩ : ∃ further, turns = further + 1 := ⟨turns - 1, by omega⟩
    refine ends_words_succ stands kind fun after stands => ?_
    refine (ends_words behind stands (Nat.le_of_succ_le_succ enough)).mono ?_ fun _ _ bad => bad
    rintro _ after ⟨ahead, left, further, presents, stands⟩
    exact ⟨ahead, left, passes.run inside further, presents, stands⟩
  · obtain ⟨next, passes, behind⟩ := presents_blank presents going blank
    have shorter := passes.length_rest_lt
    refine (ends_words behind stands enough).mono ?_ fun _ _ bad => bad
    rintro _ after ⟨ahead, left, further, presents, stands⟩
    exact ⟨ahead, left, passes.run (by simp [leading]) further, presents, stands⟩
termination_by stream.rest.length

variable {lead blanks behind : List Char}

/-- The words of a sentence end where a character may not stand among them. -/
theorem ends_lead (presents : lexical.Presents stream tokens)
    (stands : recognizer.Stands strategy depth tokens) (enough : tokens.length ≤ turns)
    (split : stream.rest = lead ++ behind) (leading : ∀ c ∈ lead, leads c = true)
    (stop : ∀ c ∈ behind.head?, leads c = false) :
    (words turns).Ends recognizer
      (fun _ after => ∃ ahead left, stream.Passes lead ahead ∧ ahead.rest = behind ∧
        lexical.Presents ahead left ∧ after.Stands strategy depth left) failed := by
  refine (ends_words presents stands enough).mono ?_ fun _ _ bad => bad
  rintro _ after ⟨ahead, left, passes, presents, stands⟩
  rw [split, takeWhile_eq_of_stop leading stop] at passes
  exact ⟨ahead, left, passes, List.append_cancel_left (passes.rest.symm.trans split), presents,
    stands⟩

/-- Behind blanks only the end of the text or another character is seen. -/
theorem presents_behind_blanks (presents : lexical.Presents stream tokens)
    (split : stream.rest = blanks ++ behind) (blank : ∀ c ∈ blanks, Text.isBlank c = true)
    (stop : ∀ c ∈ behind.head?, Text.isBlank c = false) :
    ∃ token others, tokens = token :: others ∧ (token.kind = .eof ↔ behind = []) ∧
      token.position = stream.position.after blanks := by
  obtain ⟨ahead, passes, presents⟩ := presents_blanks presents
  rw [split, takeWhile_eq_of_stop blank stop] at passes
  have there : ahead.rest = behind := List.append_cancel_left (passes.rest.symm.trans split)
  cases behind with
  | nil =>
    obtain ⟨token, rfl, ends, position⟩ := presents.finished there
    exact ⟨token, [], rfl, by simpa [Token.isEof] using ends, position.trans passes.position⟩
  | cons c rest =>
    obtain ⟨token, others, -, rfl, kind, position, -, -⟩ :=
      presents_solid presents there (stop c rfl)
    refine ⟨token, others, rfl, ?_, position.trans passes.position⟩
    simp [kind, Grammar.word_scan_ne_eof]

/-- A text is a sentence when it is made of letters and blanks, a semicolon, and blanks. -/
def IsSentence (text : List Char) : Prop :=
  ∃ lead blanks, text = lead ++ ';' :: blanks ∧ (∀ c ∈ lead, leads c = true) ∧
    ∀ c ∈ blanks, Text.isBlank c = true

/-- A text departs from the form of a sentence behind its first part. -/
inductive Departs : List Char → List Char → Prop
  /-- Before any semicolon stands a character that is neither a letter nor blank. -/
  | early {lead rest : List Char} {c : Char} (leading : ∀ d ∈ lead, leads d = true)
    (stop : leads c = false) (other : c ≠ ';') : Departs lead (c :: rest)
  /-- Behind the semicolon stands a character that is not blank. -/
  | late {lead blanks rest : List Char} {c : Char} (leading : ∀ d ∈ lead, leads d = true)
    (blank : ∀ d ∈ blanks, Text.isBlank d = true) (solid : Text.isBlank c = false) :
    Departs (lead ++ ';' :: blanks) (c :: rest)
  /-- The text ends without a semicolon. -/
  | unended {lead : List Char} (leading : ∀ d ∈ lead, leads d = true) : Departs lead []

/-- A text that is no sentence departs from the form of one. -/
theorem exists_departs {text : List Char} (other : ¬ IsSentence text) :
    ∃ before after, text = before ++ after ∧ Departs before after := by
  obtain ⟨lead, behind, rfl, leading, stop⟩ := exists_run leads text
  cases behind with
  | nil => exact ⟨lead, [], rfl, .unended leading⟩
  | cons c rest =>
    by_cases semicolon : c = ';'
    · subst semicolon
      obtain ⟨blanks, behind, rfl, blank, solid⟩ := exists_run Text.isBlank rest
      cases behind with
      | nil => exact absurd ⟨lead, blanks, by simp, leading, blank⟩ other
      | cons c rest =>
        exact ⟨lead ++ ';' :: blanks, c :: rest, by simp, .late leading blank (solid c rfl)⟩
    · exact ⟨lead, c :: rest, rfl, .early leading (stop c rfl) semicolon⟩

/-! ## The rule for sentences -/

/-- The rule is cancelled at a token at a position. -/
def CancelledAt (position : Position) (failure : RuleFailure) : Prop :=
  ∃ cause, failure = .cancelled cause ∧ cause.offending.position = position

/-- A rule that takes a token first is cancelled at one of another kind. -/
theorem ends_mismatch {α : Type} {token : Token} {others : List Token} {kind : Kind}
    (stands : recognizer.Stands .failFast depth (token :: others)) (other : token.kind ≠ kind)
    (next : Token → Rule α) :
    (Recognizer.matchKind kind >>= next).Ends recognizer (fun _ _ => False)
      fun failure _ => CancelledAt token.position failure := by
  have stopped : (Recognizer.matchKind kind).Ends recognizer (fun _ _ => False)
      fun failure _ => CancelledAt token.position failure :=
    (stands.matchKind_of_ne other).mono (fun _ _ never => never)
      fun _ _ found => ⟨_, found.1, rfl⟩
  exact stopped.bind fun _ _ never => never.elim

/-- Where another character than the semicolon comes behind the words, the rule is cancelled. -/
theorem ends_sentence_of_stop (presents : lexical.Presents stream tokens)
    (stands : recognizer.Stands .failFast depth tokens) (split : stream.rest = lead ++ behind)
    (leading : ∀ c ∈ lead, leads c = true)
    (stop : ∀ c ∈ behind.head?, leads c = false ∧ c ≠ ';') :
    sentence.Ends recognizer (fun _ _ => False)
      fun failure _ => CancelledAt (stream.position.after lead) failure := by
  have room : tokens.length ≤ recognizer.outstanding + 1 :=
    Nat.le_succ_of_le stands.shown.length_le
  refine (ends_lead presents stands room split leading fun c first => (stop c first).1).bind ?_
  rintro _ after ⟨ahead, left, passes, there, presents, stands⟩
  have outside : ∀ c ∈ ahead.rest.head?, leads c = false := fun c first =>
    (stop c (there ▸ first)).1
  obtain ⟨token, others, rfl, -, semicolon, position⟩ := presents_front presents outside
  have other : token.kind ≠ semicolonKind := fun due =>
    (stop ';' (there ▸ semicolon due)).2 rfl
  rw [← passes.position, ← position]
  exact ends_mismatch stands other _

/-- Behind the semicolon the rule returns at the end of the text and is cancelled at any character
that is not blank. -/
theorem ends_sentence_of_semicolon (presents : lexical.Presents stream tokens)
    (stands : recognizer.Stands .failFast depth tokens)
    (split : stream.rest = lead ++ ';' :: (blanks ++ behind))
    (leading : ∀ c ∈ lead, leads c = true) (blank : ∀ c ∈ blanks, Text.isBlank c = true)
    (stop : ∀ c ∈ behind.head?, Text.isBlank c = false) :
    sentence.Ends recognizer (fun _ _ => behind = []) fun failure _ =>
      behind ≠ [] ∧ CancelledAt (stream.position.after (lead ++ ';' :: blanks)) failure := by
  have room : tokens.length ≤ recognizer.outstanding + 1 :=
    Nat.le_succ_of_le stands.shown.length_le
  have ended : leads ';' = false := by decide
  refine (ends_lead presents stands room split leading (by simpa using ended)).bind ?_
  rintro _ after ⟨ahead, left, passes, there, presents, stands⟩
  obtain ⟨token, others, next, rfl, kind, -, further, presents⟩ :=
    presents_stop presents there ended
  rw [if_pos rfl] at kind
  have running : token.isEof = false := by
    simp only [Token.isEof, kind]
    decide
  rw [← kind]
  refine stands.matchKind_of_eq.bind ?_
  rintro _ after ⟨-, stands⟩
  simp only [running, Bool.false_eq_true, ↓reduceIte] at stands
  have rest : next.rest = blanks ++ behind := by
    have whole := further.rest.symm.trans there
    simpa using whole
  obtain ⟨token, others, rfl, atEnd, position⟩ :=
    presents_behind_blanks presents rest blank stop
  by_cases ends : token.kind = .eof
  · rw [← ends]
    exact stands.matchKind_of_eq.bind fun _ _ _ => Ends.pure (atEnd.1 ends)
  · have there : token.position = stream.position.after (lead ++ ';' :: blanks) := by
      rw [position, (passes.trans further).position, ← Position.after_append, List.append_assoc]
      rfl
    have more : behind ≠ [] := fun none => ends (atEnd.2 none)
    rw [← there]
    exact (ends_mismatch stands ends _).mono (fun _ _ never => never.elim)
      fun _ _ cancelled => ⟨more, cancelled⟩

/-- The rule returns on a sentence. -/
theorem ends_sentence_of_isSentence (presents : lexical.Presents stream tokens)
    (stands : recognizer.Stands .failFast depth tokens) (form : IsSentence stream.rest) :
    sentence.Ends recognizer (fun _ _ => True) fun _ _ => False := by
  obtain ⟨lead, blanks, split, leading, blank⟩ := form
  rw [← List.append_nil blanks] at split
  exact (ends_sentence_of_semicolon presents stands split leading blank (by simp)).mono
    (fun _ _ _ => trivial) fun _ _ cancelled => cancelled.1 rfl

/-- The rule is cancelled where a text departs from the form of a sentence. -/
theorem ends_sentence_of_departs (presents : lexical.Presents stream tokens)
    (stands : recognizer.Stands .failFast depth tokens) {before after : List Char}
    (split : stream.rest = before ++ after) (departs : Departs before after) :
    sentence.Ends recognizer (fun _ _ => False)
      fun failure _ => CancelledAt (stream.position.after before) failure := by
  cases departs with
  | early leading stop other =>
    exact ends_sentence_of_stop presents stands split leading (by simp [stop, other])
  | unended leading => exact ends_sentence_of_stop presents stands split leading (by simp)
  | @late lead blanks rest c leading blank solid =>
    rw [List.append_assoc, List.cons_append] at split
    exact (ends_sentence_of_semicolon presents stands split leading blank
      (by simp [solid])).mono nofun fun _ _ cancelled => cancelled.2

/-- A parser of Word that stops at the first error returns from the rule for sentences exactly when
its text is a sentence: letters and blanks, a semicolon, and blanks. Any other text departs from
this form behind some first part of it, at a character or at its end, and the parser is cancelled
there: the offending token has the line that the line feeds of that part count and the column that
its characters behind the last of them count. -/
theorem sentence_verdict (name text : String) :
    let parser := grammar.parserUnder .failFast (grammar.lexer (CharStream.ofText name text))
    let answer := (parser.invoke "sentence").1
    (answer = .ok () ↔ IsSentence text.toList) ∧
      (¬ IsSentence text.toList →
        ∃ before after, text.toList = before ++ after ∧ Departs before after) ∧
      ∀ before after, text.toList = before ++ after → Departs before after →
        ∃ cause, answer = .error (.cancelled cause) ∧
          cause.offending.position.line = 1 + before.count '\n' ∧
          cause.offending.position.column = (before.reverse.takeWhile (· != '\n')).length := by
  intro parser answer
  have shown : parser.state.input.Shows (grammar.lexer (CharStream.ofText name text)).visible :=
    TokenBuffer.shows_ofSource _
  have presents : lexical.Presents (CharStream.ofText name text)
      (grammar.lexer (CharStream.ofText name text)).visible := ⟨0, rfl⟩
  have stands : parser.state.Stands .failFast 0
      (grammar.lexer (CharStream.ofText name text)).visible := ⟨rfl, rfl, shown⟩
  have returns (form : IsSentence text.toList) : answer = .ok () := by
    have ends := ends_sentence_of_isSentence presents stands form
    rcases parser.invoke_of_ends "sentence" ends with ⟨returned, -⟩ | ⟨failure, -, never⟩
    · exact returned
    · exact never.elim
  have cancelled (before after : List Char) (split : text.toList = before ++ after)
      (departs : Departs before after) :
      ∃ cause, answer = .error (.cancelled cause) ∧
        cause.offending.position = Position.start.after before := by
    have ends := ends_sentence_of_departs presents stands split departs
    rcases parser.invoke_of_ends "sentence" ends with ⟨-, never⟩ | ⟨failure, failed, at'⟩
    · exact never.elim
    · obtain ⟨cause, rfl, position⟩ := at'
      exact ⟨cause, failed, position⟩
  refine ⟨⟨fun returned => ?_, returns⟩, exists_departs, fun before after split departs => ?_⟩
  · by_contra other
    obtain ⟨before, after, split, departs⟩ := exists_departs other
    obtain ⟨cause, failed, -⟩ := cancelled before after split departs
    exact nomatch returned.symm.trans failed
  · obtain ⟨cause, failed, position⟩ := cancelled before after split departs
    rw [Position.start_after] at position
    exact ⟨cause, failed, congrArg Position.line position, congrArg Position.column position⟩

end Word

end Conformance
