import Conformance.Proofs.Snafu.Strings

/-!
# Longest match

The lexer of Snafu against its lexical rules. It takes the longest piece that a rule describes, and
it calls a piece invalid only where no rule describes any.
-/

namespace Conformance.Snafu

variable {c d : Char} {rest piece : List Char}

/-! ## Runs -/

/-- The digits of the scanner are those of the rules. -/
theorem isDigit_iff : c.isDigit = true ↔ IsDigit c := by
  simp [Char.isDigit, IsDigit, Char.le_def]

/-- Names start in the scanner as in the rules. -/
theorem startsName_iff : startsName c = true ↔ IsNameStart c := by
  have alpha : c.isAlpha = (c.isUpper || c.isLower) := rfl
  have upper : c.isUpper = decide ('A' ≤ c ∧ c ≤ 'Z') := rfl
  have lower : c.isLower = (decide ('a' ≤ c) && decide (c ≤ 'z')) := rfl
  simp only [startsName, alpha, upper, lower, IsNameStart, Bool.or_eq_true, Bool.and_eq_true,
    decide_eq_true_eq, beq_iff_eq]
  tauto

/-- Names go on with letters and digits. -/
theorem continuesName_iff : continuesName c = true ↔ IsNameStart c ∨ IsDigit c := by
  rw [← startsName_iff, ← isDigit_iff]
  simp only [continuesName, startsName, Char.isAlphanum, Bool.or_eq_true]
  tauto

/-- The blanks of the scanner are those of the rules. -/
theorem isSpace_iff : isSpace c = true ↔ c ∈ blanks := by
  simp [isSpace, blanks, or_assoc]

/-- The characters of a run are those before the first outside the class. -/
theorem take_runLength (inClass : Char → Bool) (rest : List Char) :
    rest.take (runLength inClass 0 rest) = rest.takeWhile inClass := by
  rw [runLength_eq, Nat.zero_add]
  exact (List.prefix_iff_eq_take.1 (List.takeWhile_prefix inClass)).symm

/-- No piece in the class is longer than a run. -/
theorem length_le_run {inClass : Char → Bool} (front : piece <+: rest)
    (inside : ∀ d ∈ piece, inClass d = true) :
    piece.length ≤ (rest.takeWhile inClass).length := by
  obtain ⟨behind, rfl⟩ := front
  rw [List.takeWhile_append_of_pos inside, List.length_append]
  exact Nat.le_add_right _ _

/-! ## Lexemes -/

/-- The kinds of keywords. -/
def keywords : List Kind := [letKind, printKind]

/-- The lexeme that starts with a character, by its kind and its further characters. -/
inductive Lexes (c : Char) (rest : List Char) : Kind → List Char → Prop
  /-- The longest piece that a rule describes. -/
  | longest {kind : Kind} {body : List Char} (front : body <+: rest) (fits : Fits kind (c :: body))
      (most : ∀ other tail, tail <+: rest → Fits other (c :: tail) → tail.length ≤ body.length)
      (decided : ∀ other, Fits other (c :: body) →
        other = kind ∨ kind ∈ keywords ∧ other = nameKind) :
      Lexes c rest kind body
  /-- A character by itself, where no rule describes a piece. -/
  | stray (noQuote : c ≠ '"') (never : ∀ kind tail, tail <+: rest → ¬ Fits kind (c :: tail)) :
      Lexes c rest .invalid []
  /-- A quote and its line, where no rule describes a piece. -/
  | unclosed {body : List Char} (quote : c = '"') (fills : FillsLine rest body)
      (never : ∀ kind tail, tail <+: rest → ¬ Fits kind (c :: tail)) :
      Lexes c rest .invalid body

/-- A lexeme that goes on as long as its characters are in a class. -/
theorem Lexes.run {kind : Kind} {inClass : Char → Bool}
    (rule : ∀ other tail, Fits other (c :: tail) ↔ other = kind ∧ ∀ d ∈ tail, inClass d = true) :
    Lexes c rest kind (rest.takeWhile inClass) :=
  .longest (List.takeWhile_prefix inClass)
    ((rule _ _).2 ⟨rfl, fun _ => List.mem_takeWhile_imp⟩)
    (fun _ _ front fits => length_le_run front ((rule _ _).1 fits).2)
    (fun _ fits => .inl ((rule _ _).1 fits).1)

/-- A sign other than the slash is scanned by itself. -/
theorem scan_sign {kind : Kind} (found : (kind, c) ∈ signs) (other : c ≠ '/') :
    scan c rest = (kind, 0) := by
  simp only [signs, List.mem_cons, Prod.mk.injEq, List.not_mem_nil, or_false] at found
  rcases found with ⟨rfl, rfl⟩ | ⟨rfl, rfl⟩ | ⟨rfl, rfl⟩ | ⟨rfl, rfl⟩ | ⟨rfl, rfl⟩ | ⟨-, slash⟩ |
    ⟨rfl, rfl⟩ | ⟨rfl, rfl⟩
  case inr.inr.inr.inr.inr.inl => exact absurd slash other
  all_goals rfl

/-- What is neither a sign nor a quote is scanned by its class. -/
theorem scan_class (noSign : ∀ kind, (kind, c) ∉ signs) (noQuote : c ≠ '"') :
    scan c rest =
      if IsDigit c then (numberKind, runLength Char.isDigit 0 rest)
      else if IsNameStart c then
        (kindOfName (c :: rest.takeWhile continuesName), runLength continuesName 0 rest)
      else if c ∈ blanks then (blankKind, runLength isSpace 0 rest)
      else (.invalid, 0) := by
  have others : c ≠ ';' ∧ c ≠ '=' ∧ c ≠ '+' ∧ c ≠ '-' ∧ c ≠ '*' ∧ c ≠ '/' ∧ c ≠ '(' ∧ c ≠ ')' := by
    simpa [signs, forall_and] using noSign
  simp [scan, others, noQuote, take_runLength, ← isDigit_iff, ← startsName_iff, ← isSpace_iff]

/-- A name is a keyword, or its kind is that of names. -/
theorem fits_kindOfName (starts : IsNameStart c) (inside : ∀ d ∈ piece, IsNameStart d ∨ IsDigit d) :
    Fits (kindOfName (c :: piece)) (c :: piece) ∧
      ∀ other, Fits other (c :: piece) → other = kindOfName (c :: piece) ∨
        kindOfName (c :: piece) ∈ keywords ∧ other = nameKind := by
  have rules (other : Kind) : Fits other (c :: piece) ↔ _ := fits_name starts
  by_cases isLet : c :: piece = ['l', 'e', 't']
  · have named : kindOfName (c :: piece) = letKind := if_pos isLet
    rw [named]
    refine ⟨(rules _).2 (.inl ⟨rfl, isLet⟩), fun other fits => ?_⟩
    rcases (rules other).1 fits with ⟨same, -⟩ | ⟨-, isPrint⟩ | ⟨same, -⟩
    · exact .inl same
    · exact absurd (isLet.symm.trans isPrint) (by decide)
    · exact .inr ⟨by decide, same⟩
  by_cases isPrint : c :: piece = ['p', 'r', 'i', 'n', 't']
  · have named : kindOfName (c :: piece) = printKind := by
      rw [kindOfName, if_neg isLet, if_pos isPrint]
    rw [named]
    refine ⟨(rules _).2 (.inr (.inl ⟨rfl, isPrint⟩)), fun other fits => ?_⟩
    rcases (rules other).1 fits with ⟨-, again⟩ | ⟨same, -⟩ | ⟨same, -⟩
    · exact absurd again isLet
    · exact .inl same
    · exact .inr ⟨by decide, same⟩
  · have named : kindOfName (c :: piece) = nameKind := by
      rw [kindOfName, if_neg isLet, if_neg isPrint]
    rw [named]
    refine ⟨(rules _).2 (.inr (.inr ⟨rfl, inside⟩)), fun other fits => ?_⟩
    rcases (rules other).1 fits with ⟨-, again⟩ | ⟨-, again⟩ | ⟨same, -⟩
    · exact absurd again isLet
    · exact absurd again isPrint
    · exact .inl same

/-- Whatever starts with a letter goes on with letters and digits. -/
theorem inside_of_fits_name {kind : Kind} (starts : IsNameStart c) (fits : Fits kind (c :: piece)) :
    ∀ d ∈ piece, IsNameStart d ∨ IsDigit d := by
  intro d found
  rcases (fits_name starts).1 fits with ⟨-, isLet⟩ | ⟨-, isPrint⟩ | ⟨-, inside⟩
  · cases isLet
    simp only [List.mem_cons, List.not_mem_nil, or_false] at found
    rcases found with rfl | rfl <;> decide
  · cases isPrint
    simp only [List.mem_cons, List.not_mem_nil, or_false] at found
    rcases found with rfl | rfl | rfl | rfl <;> decide
  · exact inside d found

/-- No piece that starts with a letter is longer than a run of letters and digits. -/
theorem length_le_name {kind : Kind} (starts : IsNameStart c) (front : piece <+: rest)
    (fits : Fits kind (c :: piece)) :
    piece.length ≤ (rest.takeWhile continuesName).length :=
  length_le_run front fun d found => continuesName_iff.2 (inside_of_fits_name starts fits d found)

/-- A sign by itself is its lexeme, where it starts no other. -/
theorem Lexes.single {kind : Kind}
    (rule : ∀ other tail, tail <+: rest → (Fits other (c :: tail) ↔ other = kind ∧ tail = [])) :
    Lexes c rest kind [] := by
  refine .longest List.nil_prefix ((rule kind [] List.nil_prefix).2 ⟨rfl, rfl⟩) ?_ ?_
  · intro other tail front fits
    rw [((rule other tail front).1 fits).2]
  · exact fun other fits => .inl ((rule other [] List.nil_prefix).1 fits).1

/-- Behind one slash another starts a comment. -/
theorem scan_slash_lexes (rest : List Char) :
    Lexes '/' rest (scan '/' rest).1 (rest.take (scan '/' rest).2) := by
  have scanned : scan '/' rest =
      if rest.head? == some '/' then (commentKind, runLength (fun c => !endsLine c) 0 rest)
      else (slashKind, 0) := rfl
  have inLine {d : Char} : (!endsLine d) = true ↔ d ∉ lineEnds := by
    rw [Bool.not_eq_true', ← endsLine_iff, Bool.not_eq_true]
  by_cases second : rest.head? = some '/'
  · obtain ⟨behind, rfl⟩ := List.head?_eq_some_iff.1 second
    rw [scanned, if_pos (beq_iff_eq.2 second), take_runLength]
    have run : ('/' :: behind).takeWhile (fun c => !endsLine c) =
        '/' :: behind.takeWhile (fun c => !endsLine c) :=
      List.takeWhile_cons_of_pos (inLine.2 (by decide))
    refine .longest (List.takeWhile_prefix _) (fits_slash.2 (.inr ⟨rfl, _, run, ?_⟩)) ?_ ?_
    · intro d found
      have holds := List.mem_takeWhile_imp found
      exact inLine.1 holds
    · intro other tail front fits
      rcases fits_slash.1 fits with ⟨-, rfl⟩ | ⟨-, body, rfl, inside⟩
      · exact Nat.zero_le _
      · refine length_le_run front fun d found => inLine.2 ?_
        rcases List.mem_cons.1 found with rfl | found
        · decide
        · exact inside d found
    · intro other fits
      rcases fits_slash.1 fits with ⟨-, empty⟩ | ⟨same, -⟩
      · exact absurd (run.symm.trans empty) (List.cons_ne_nil _ _)
      · exact .inl same
  · rw [scanned, if_neg (mt beq_iff_eq.1 second)]
    refine .single fun other tail front => fits_slash.trans (or_iff_left ?_)
    rintro ⟨-, body, rfl, -⟩
    obtain ⟨behind, rfl⟩ := front
    exact second rfl

/-- What is scanned behind a quote is a string or an invalid line. -/
theorem scan_quote_lexes (rest : List Char) :
    Lexes '"' rest (scan '"' rest).1 (rest.take (scan '"' rest).2) := by
  obtain ⟨kind, body, found, scans⟩ := scanString_scans 0 rest
  have scanned : scan '"' rest = (kind, body.length) := found.trans (by rw [Nat.zero_add])
  have text (front : body <+: rest) : rest.take body.length = body :=
    (List.prefix_iff_eq_take.1 front).symm
  rw [scanned]
  cases scans with
  | closed front closes only =>
    rw [text front]
    refine .longest front (fits_quote.2 ⟨rfl, closes⟩) ?_ ?_
    · intro other tail within fits
      rw [only tail within (fits_quote.1 fits).2]
    · exact fun other fits => .inl (fits_quote.1 fits).1
  | unclosed fills never =>
    rw [text fills.front]
    exact .unclosed rfl fills fun kind tail front fits => never tail front (fits_quote.1 fits).2

/-- What is scanned behind a character is its lexeme. -/
theorem scan_lexes (c : Char) (rest : List Char) :
    Lexes c rest (scan c rest).1 (rest.take (scan c rest).2) := by
  by_cases sign : ∃ kind, (kind, c) ∈ signs
  · obtain ⟨kind, found⟩ := sign
    by_cases slash : c = '/'
    · subst slash
      exact scan_slash_lexes rest
    · rw [scan_sign found slash]
      exact .single fun _ _ _ => fits_sign found slash
  rw [not_exists] at sign
  by_cases quote : c = '"'
  · subst quote
    exact scan_quote_lexes rest
  rw [scan_class sign quote]
  by_cases digit : IsDigit c
  · rw [if_pos digit, take_runLength]
    refine .run fun other tail => ?_
    simp only [isDigit_iff]
    exact fits_digit digit
  rw [if_neg digit]
  by_cases starts : IsNameStart c
  · have inside : ∀ d ∈ rest.takeWhile continuesName, IsNameStart d ∨ IsDigit d :=
      fun d found => continuesName_iff.1 (List.mem_takeWhile_imp found)
    obtain ⟨fits, decided⟩ := fits_kindOfName starts inside
    rw [if_pos starts, take_runLength]
    exact .longest (List.takeWhile_prefix _) fits
      (fun _ _ front fits => length_le_name starts front fits) decided
  rw [if_neg starts]
  by_cases blank : c ∈ blanks
  · rw [if_pos blank, take_runLength]
    refine .run fun other tail => ?_
    simp only [isSpace_iff]
    exact fits_blank blank
  · rw [if_neg blank]
    exact .stray quote fun kind tail _ => not_fits_of_stray sign quote digit starts blank

/-! ## Tokens -/

/-- A rule for a kind matches the longest piece at the front of a text. -/
structure Munches (text : List Char) (kind : Kind) (word : List Char) : Prop where
  /-- The piece is not empty. -/
  nonempty : word ≠ []
  /-- The piece is at the front of the text. -/
  front : word <+: text
  /-- A rule for the kind describes it. -/
  fits : Fits kind word
  /-- No rule describes a longer one. -/
  longest : ∀ other longer, longer <+: text → Fits other longer → longer.length ≤ word.length
  /-- If another rule describes it, this is a keyword, and the other rule is that of names. -/
  decided : ∀ other, Fits other word → other = kind ∨ kind ∈ keywords ∧ other = nameKind

/-- A rule matches some piece at the front of a text. -/
def Matches (text : List Char) : Prop :=
  ∃ kind word, word ≠ [] ∧ word <+: text ∧ Fits kind word

/-- A rule that matches is known by the first character. -/
theorem matches_cons :
    Matches (c :: rest) ↔ ∃ kind tail, tail <+: rest ∧ Fits kind (c :: tail) := by
  constructor
  · rintro ⟨kind, word, nonempty, front, fits⟩
    obtain ⟨tail, rfl, further⟩ := exists_tail front nonempty
    exact ⟨kind, tail, further, fits⟩
  · rintro ⟨kind, tail, front, fits⟩
    exact ⟨kind, c :: tail, List.cons_ne_nil _ _, (List.prefix_cons_inj c).2 front, fits⟩

/-- The kind of a rule is one of the terminals. -/
theorem Fits.kind_mem {kind : Kind} {word : List Char} (fits : Fits kind word) :
    kind ∈ lexicalRules.map Prod.fst := by
  obtain ⟨rule, found, rfl, -⟩ := fits
  exact List.mem_map_of_mem found

namespace Lexes

variable {kind : Kind} {body : List Char}

/-- A lexeme is valid when a rule matches. -/
theorem munches (lexes : Lexes c rest kind body) (described : Matches (c :: rest)) :
    Munches (c :: rest) kind (c :: body) := by
  obtain ⟨other, tail, within, fits⟩ := matches_cons.1 described
  cases lexes with
  | longest front fits most decided =>
    refine ⟨List.cons_ne_nil _ _, (List.prefix_cons_inj c).2 front, fits, ?_, decided⟩
    intro other word within again
    by_cases empty : word = []
    · rw [empty]
      exact Nat.zero_le _
    · obtain ⟨tail, rfl, further⟩ := exists_tail within empty
      exact Nat.succ_le_succ (most other tail further again)
  | stray _ never => exact absurd fits (never other tail within)
  | unclosed _ _ never => exact absurd fits (never other tail within)

/-- A lexeme is invalid when no rule matches. -/
theorem kind_eq_invalid (lexes : Lexes c rest kind body) :
    kind = .invalid ↔ ¬ Matches (c :: rest) := by
  rw [matches_cons]
  cases lexes with
  | longest front fits most decided =>
    refine iff_of_false ?_ (not_not_intro ⟨kind, body, front, fits⟩)
    rintro rfl
    exact absurd fits.kind_mem (by decide)
  | stray _ never =>
    exact iff_of_true rfl fun ⟨kind, tail, front, found⟩ => never kind tail front found
  | unclosed _ _ never =>
    exact iff_of_true rfl fun ⟨kind, tail, front, found⟩ => never kind tail front found

/-- An invalid lexeme is a character or, from a quote on, a line. -/
theorem of_invalid (lexes : Lexes c rest .invalid body) :
    c ≠ '"' ∧ body = [] ∨ c = '"' ∧ FillsLine rest body := by
  cases lexes with
  | longest _ fits _ _ => exact absurd fits.kind_mem (by decide)
  | stray noQuote _ => exact .inl ⟨noQuote, rfl⟩
  | unclosed quote fills _ => exact .inr ⟨quote, fills⟩

/-- No lexeme ends the input. -/
theorem kind_ne_eof (lexes : Lexes c rest kind body) : kind ≠ .eof := by
  cases lexes with
  | longest _ fits _ _ =>
    rintro rfl
    exact absurd fits.kind_mem (by decide)
  | stray _ _ => decide
  | unclosed _ _ _ => decide

end Lexes

/-- Before the end of its text the lexer takes the longest piece that a rule describes, keywords
before names. The token is invalid when there is none; then it is one character or, behind a quote,
the line up to its first end that is not escaped. Blanks and comments are hidden. -/
theorem next_longest (stream : CharStream) (more : stream.rest ≠ []) :
    (Matches stream.rest →
      Munches stream.rest (lexical.next stream).1.kind (lexical.next stream).1.text.toList) ∧
    ((lexical.next stream).1.kind = .invalid ↔ ¬ Matches stream.rest) ∧
    ((lexical.next stream).1.kind = .invalid →
      ∃ c rest, stream.rest = c :: rest ∧
        (c ≠ '"' ∧ (lexical.next stream).1.text.toList = [c] ∨
          c = '"' ∧ ∃ line, FillsLine rest line ∧
            (lexical.next stream).1.text.toList = c :: line)) ∧
    ((lexical.next stream).1.isHidden = true ↔
      (lexical.next stream).1.kind = blankKind ∨ (lexical.next stream).1.kind = commentKind) := by
  obtain ⟨c, rest, going⟩ := List.exists_cons_of_ne_nil more
  have lexes : Lexes c rest (lexical.scan c rest).1 (rest.take (lexical.scan c rest).2) :=
    scan_lexes c rest
  rw [LexicalGrammar.next_of_rest_cons going, going, LexicalGrammar.kind_token,
    LexicalGrammar.text_token, LexicalGrammar.isHidden_token]
  refine ⟨lexes.munches, lexes.kind_eq_invalid, fun isInvalid => ⟨c, rest, rfl, ?_⟩, ?_⟩
  · rw [isInvalid] at lexes
    rcases lexes.of_invalid with ⟨noQuote, alone⟩ | ⟨quote, fills⟩
    · exact .inl ⟨noQuote, by rw [alone]⟩
    · exact .inr ⟨quote, _, fills, rfl⟩
  · simp [lexical]

/-- The end of a line behind a backslash belongs to a string, and to the line of a quote that
nothing closes. -/
theorem next_longest_escaped_line :
    let closed := CharStream.ofText "script" "\"a\\\nb\"c\""
    let unclosed := CharStream.ofText "script" "\"a\\\nb\n\""
    (closed.rest ≠ [] ∧ Matches closed.rest ∧
      Munches closed.rest stringKind ['"', 'a', '\\', '\n', 'b', '"']) ∧
    (unclosed.rest ≠ [] ∧ ¬ Matches unclosed.rest ∧
      (lexical.next unclosed).1.text = "\"a\\\nb") := by
  intro closed unclosed
  have someClosed : closed.rest ≠ [] := by decide
  have someUnclosed : unclosed.rest ≠ [] := by decide
  refine ⟨⟨someClosed, ?_⟩, someUnclosed, ?_, by decide⟩
  · have described : Matches closed.rest :=
      ⟨stringKind, ['"', 'a', '\\', '\n', 'b', '"'], List.cons_ne_nil _ _, by decide, by
        simp [fits_quote, cons_mem_closing]⟩
    have kind : (lexical.next closed).1.kind = stringKind := by decide
    have text : (lexical.next closed).1.text.toList = ['"', 'a', '\\', '\n', 'b', '"'] := by decide
    have munches := (next_longest closed someClosed).1 described
    rw [kind, text] at munches
    exact ⟨described, munches⟩
  · exact (next_longest unclosed someUnclosed).2.1.1 (by decide)

end Conformance.Snafu
