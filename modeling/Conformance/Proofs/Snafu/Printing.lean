import Conformance.Proofs.Snafu.LongestMatch
import Conformance.Proofs.Token.Cursor
import Conformance.Grammar.Snafu.Rules

/-!
# Lexing undoes printing

The words of a script are its visible tokens by kind and text. Printing words puts single spaces
between them, and the lexer gives printed words back: a space goes on with no lexeme, so each
lexeme ends exactly in front of it, and a space before a lexeme is a blank of its own.
-/

namespace Conformance

/-! ## Words -/

/-- A token by its kind and text. -/
def Token.word (token : Token) : Kind × String :=
  (token.kind, token.text)

/-- The number of a token is no part of its word. -/
@[simp] theorem Token.word_number (token : Token) (index : Nat) :
    (token.number index).word = token.word := rfl

/-- The visible tokens of a list without its end, by kind and text. -/
def wordsOf (tokens : List Token) : List (Kind × String) :=
  ((tokens.filter Token.isSeen).filter (!·.isEof)).map Token.word

variable {token : Token}

/-- The end token is no word. -/
theorem wordsOf_end (ends : token.isEof = true) (index : Nat) :
    wordsOf [token.number index] = [] := by
  simp [wordsOf, Token.isSeen, ends]

/-- Any other token is a word unless it is hidden. -/
theorem wordsOf_cons (going : token.isEof = false) (index : Nat) (tokens : List Token) :
    wordsOf (token.number index :: tokens) =
      (if token.isHidden then [] else [token.word]) ++ wordsOf tokens := by
  cases hidden : token.isHidden with
  | false => simp [wordsOf, Token.isSeen, going, hidden]
  | true => simp [wordsOf, Token.isSeen, going, hidden]

namespace TokenSource

/-- The visible tokens of a source before its end, by kind and text. -/
def words (source : TokenSource) : List (Kind × String) :=
  wordsOf source.tokens

/-- The numbers of the tokens do not matter for their words. -/
theorem wordsOf_tokensFrom (source : TokenSource) (number other : Nat) :
    wordsOf (source.tokensFrom number) = wordsOf (source.tokensFrom other) := by
  fun_induction tokensFrom source number generalizing other with
  | case1 source number ends =>
    rw [tokensFrom, if_pos ends, wordsOf_end ends, wordsOf_end ends]
  | case2 source number going ih =>
    have notEnd : source.next.1.isEof = false := by simpa using going
    rw [tokensFrom.eq_1 source other, if_neg going, wordsOf_cons notEnd, wordsOf_cons notEnd,
      ih (other + 1)]

/-- A source that answers the end token has no words. -/
theorem words_of_isEof {source : TokenSource} (ends : source.next.1.isEof = true) :
    source.words = [] := by
  rw [words, tokens, tokensFrom, if_pos ends]
  exact wordsOf_end ends 0

/-- The first token of a source is a word before those of the source that is left, unless it is
hidden. -/
theorem words_next {source : TokenSource} (going : source.next.1.isEof = false) :
    source.words = (if source.next.1.isHidden then [] else [source.next.1.word]) ++
      source.next.2.words := by
  have notEnd : ¬ source.next.1.isEof = true := by simp [going]
  calc
    source.words = wordsOf (source.next.1.number 0 :: source.next.2.tokensFrom 1) := by
      rw [words, tokens, tokensFrom, if_neg notEnd]
    _ = (if source.next.1.isHidden then [] else [source.next.1.word]) ++
        wordsOf (source.next.2.tokensFrom 1) := wordsOf_cons going 0 _
    _ = _ := by rw [wordsOf_tokensFrom source.next.2 1 0, words, tokens]

/-- What a lexer hands out before its end it reads at some place of its text. -/
theorem exists_next_of_mem_tokensFrom {grammar : LexicalGrammar} {stream : CharStream}
    {number : Nat} {token : Token} (found : token ∈ (lexer grammar stream).tokensFrom number)
    (going : token.isEof = false) :
    ∃ place index, place.rest ≠ [] ∧ token = (grammar.next place).1.number index := by
  generalize same : lexer grammar stream = source at found
  fun_induction tokensFrom source number generalizing stream with
  | case1 source number ends =>
    rw [List.mem_singleton.1 found, Token.isEof_number, ends] at going
    cases going
  | case2 source number notEnd ih =>
    subst same
    rcases List.mem_cons.1 found with rfl | found
    · refine ⟨stream, number, fun used => notEnd ?_, rfl⟩
      rw [next, grammar.next_of_rest_nil used]
      rfl
    · exact ih rfl found

end TokenSource

namespace Snafu

variable {kind other : Kind} {c : Char} {word tail behind more : List Char}

/-! ## Lexemes -/

/-- A text is a lexeme of a visible kind: a rule for the kind describes it, and it is no keyword
where the kind is that of names. -/
structure IsLexeme (kind : Kind) (text : List Char) : Prop where
  /-- A rule for the kind describes the text. -/
  fits : Fits kind text
  /-- The kind is neither that of blanks nor that of comments. -/
  visible : kind ∉ [blankKind, commentKind]
  /-- A name is no keyword. -/
  free : kind = nameKind → text ∉ [['l', 'e', 't'], ['p', 'r', 'i', 'n', 't']]

/-- No run is empty. -/
theorem nil_not_mem_run {inClass : Char → Prop} {words : Language Char} :
    [] ∉ oneOf inClass * words := by
  rintro ⟨_, ⟨c, -, rfl⟩, rest, -, same⟩
  cases same

/-- No rule describes the empty text. -/
theorem Fits.ne_nil (fits : Fits kind word) : word ≠ [] := by
  rintro rfl
  simp [Fits, lexicalRules, mem_literal, mem_literal_mul, nil_not_mem_run] at fits

/-- A string that is closed closes in front of everything that follows it. -/
theorem eq_of_prefix_closing {longer : List Char} (closes : word ∈ closing)
    (again : longer ∈ closing) (front : word <+: longer) : word = longer := by
  obtain ⟨kind, body, -, scans⟩ := scanString_scans 0 longer
  cases scans with
  | closed _ _ only =>
    calc
      word = body := only word front closes
      _ = longer := (only longer List.prefix_rfl again).symm
  | unclosed _ never => exact absurd again (never longer List.prefix_rfl)

/-- A lexeme does not start with a blank. -/
theorem IsLexeme.not_mem_blanks (lexeme : IsLexeme kind (c :: tail)) : c ∉ blanks := by
  intro blank
  have isBlank : kind = blankKind := ((fits_blank blank).1 lexeme.fits).1
  exact lexeme.visible (isBlank ▸ List.mem_cons_self)

/-- No rule describes a lexeme that goes on with a space. -/
theorem IsLexeme.not_fits_space (lexeme : IsLexeme kind (c :: tail)) :
    ¬ Fits other (c :: (tail ++ ' ' :: more)) := by
  intro fits
  have space : ' ' ∈ tail ++ ' ' :: more := List.mem_append_right _ List.mem_cons_self
  have longer : tail ++ ' ' :: more ≠ [] :=
    List.append_ne_nil_of_right_ne_nil tail (List.cons_ne_nil ' ' more)
  by_cases starts : IsNameStart c
  · exact absurd (inside_of_fits_name starts fits ' ' space) (by decide)
  by_cases digit : IsDigit c
  · exact absurd (((fits_digit digit).1 fits).2 ' ' space) (by decide)
  by_cases quote : c = '"'
  · subst quote
    have same : tail = tail ++ ' ' :: more := eq_of_prefix_closing (fits_quote.1 lexeme.fits).2
      (fits_quote.1 fits).2 (List.prefix_append tail _)
    exact absurd (List.self_eq_append_right.1 same) (List.cons_ne_nil ' ' more)
  by_cases slash : c = '/'
  · subst slash
    rcases fits_slash.1 lexeme.fits with ⟨-, rfl⟩ | ⟨isComment, -⟩
    · rcases fits_slash.1 fits with ⟨-, empty⟩ | ⟨-, body, comment, -⟩
      · exact longer empty
      · cases comment
    · exact lexeme.visible (isComment ▸ List.mem_cons_of_mem _ List.mem_cons_self)
  by_cases sign : ∃ symbol, (symbol, c) ∈ signs
  · obtain ⟨symbol, found⟩ := sign
    exact longer ((fits_sign found slash).1 fits).2
  · exact not_fits_of_stray (not_exists.1 sign) quote digit starts lexeme.not_mem_blanks fits

/-- Only keywords have the kinds of keywords. -/
theorem fits_keyword (keyword : kind ∈ keywords) :
    Fits kind word → word ∈ [['l', 'e', 't'], ['p', 'r', 'i', 'n', 't']] := by
  simp only [keywords, List.mem_cons, List.not_mem_nil, or_false] at keyword
  rcases keyword with rfl | rfl
  · simp +decide +contextual [Fits, lexicalRules, mem_literal]
  · simp +decide +contextual [Fits, lexicalRules, mem_literal]

/-- In front of a space, or of the end, a lexeme is the longest match: more than it would be the
lexeme with the space behind it. -/
theorem IsLexeme.eq_of_munches {text : List Char} (lexeme : IsLexeme kind text)
    (apart : behind = [] ∨ ∃ more, behind = ' ' :: more)
    (munches : Munches (text ++ behind) other word) : other = kind ∧ word = text := by
  have covers : text.length ≤ word.length :=
    munches.longest kind text (List.prefix_append text behind) lexeme.fits
  obtain ⟨extra, rfl⟩ : text <+: word :=
    List.prefix_of_prefix_length_le (List.prefix_append text behind) munches.front covers
  have further : extra <+: behind := (List.prefix_append_right_inj text).1 munches.front
  have nothing : extra = [] := by
    rcases apart with rfl | ⟨more, rfl⟩
    · exact List.prefix_nil.1 further
    · by_contra some
      obtain ⟨tail, rfl, -⟩ := exists_tail further some
      obtain ⟨c, rest, rfl⟩ := List.exists_cons_of_ne_nil lexeme.fits.ne_nil
      exact lexeme.not_fits_space munches.fits
  subst nothing
  rw [List.append_nil] at munches
  refine ⟨?_, List.append_nil text⟩
  rcases munches.decided kind lexeme.fits with same | ⟨keyword, isName⟩
  · exact same.symm
  · exact absurd (fits_keyword keyword munches.fits) (lexeme.free isName)

/-- What the longest match finds in a visible kind is a lexeme. -/
theorem Munches.isLexeme {text : List Char} (munches : Munches text kind word)
    (visible : kind ∉ [blankKind, commentKind]) : IsLexeme kind word := by
  refine ⟨munches.fits, visible, fun isName keyword => ?_⟩
  subst isName
  have noKeyword : ∀ other, Fits other word → other = nameKind := fun other fits =>
    (munches.decided other fits).resolve_right fun ⟨wrong, _⟩ => absurd wrong (by decide)
  simp only [List.mem_cons, List.not_mem_nil, or_false] at keyword
  rcases keyword with rfl | rfl
  · have fits : Fits letKind ['l', 'e', 't'] := (fits_name (by decide)).2 (.inl ⟨rfl, rfl⟩)
    exact absurd (noKeyword letKind fits) (by decide)
  · have fits : Fits printKind ['p', 'r', 'i', 'n', 't'] :=
      (fits_name (by decide)).2 (.inr (.inl ⟨rfl, rfl⟩))
    exact absurd (noKeyword printKind fits) (by decide)

/-! ## Reading printed words -/

variable {stream : CharStream}

/-- Where a rule matches, the next token is the longest match. -/
theorem munches_next (described : Matches stream.rest) (more : stream.rest ≠ []) :
    Munches stream.rest (lexical.next stream).1.kind (lexical.next stream).1.text.toList := by
  obtain ⟨c, rest, going⟩ := List.exists_cons_of_ne_nil more
  rw [going] at described
  rw [LexicalGrammar.next_of_rest_cons going, going, LexicalGrammar.kind_token,
    LexicalGrammar.text_token]
  exact (scan_lexes c rest).munches described

/-- A token is valid where a rule matches. -/
theorem matches_of_kind_ne (more : stream.rest ≠ [])
    (valid : (lexical.next stream).1.kind ≠ .invalid) : Matches stream.rest := by
  obtain ⟨c, rest, going⟩ := List.exists_cons_of_ne_nil more
  rw [LexicalGrammar.next_of_rest_cons going, LexicalGrammar.kind_token] at valid
  rw [going]
  by_contra never
  exact valid ((scan_lexes c rest).kind_eq_invalid.2 never)

/-- Blanks and comments are hidden. -/
theorem isHidden_next_iff (more : stream.rest ≠ []) :
    (lexical.next stream).1.isHidden = true ↔
      (lexical.next stream).1.kind ∈ [blankKind, commentKind] := by
  obtain ⟨c, rest, going⟩ := List.exists_cons_of_ne_nil more
  rw [LexicalGrammar.next_of_rest_cons going, LexicalGrammar.kind_token,
    LexicalGrammar.isHidden_token]
  simp [lexical]

/-- Before the end of its text the lexer does not answer the end token. -/
theorem isEof_next (more : stream.rest ≠ []) : (lexical.next stream).1.isEof = false := by
  obtain ⟨c, rest, going⟩ := List.exists_cons_of_ne_nil more
  have kind : (lexical.next stream).1.kind ≠ .eof := by
    rw [LexicalGrammar.next_of_rest_cons going, LexicalGrammar.kind_token]
    exact (scan_lexes c rest).kind_ne_eof
  simpa [Token.isEof] using kind

/-- The first token that is read is a word unless it is a blank or a comment. -/
theorem words_of_next {text : String} (going : stream.rest = text.toList ++ behind)
    (more : stream.rest ≠ []) (sameKind : (lexical.next stream).1.kind = kind)
    (sameText : (lexical.next stream).1.text.toList = text.toList) :
    ∃ after : CharStream, after.rest = behind ∧
      (TokenSource.lexer lexical stream).words =
        (if kind ∈ [blankKind, commentKind] then [] else [(kind, text)]) ++
          (TokenSource.lexer lexical after).words := by
  subst sameKind
  have running : (TokenSource.lexer lexical stream).next.1.isEof = false := isEof_next more
  have word : (lexical.next stream).1.word = ((lexical.next stream).1.kind, text) :=
    Prod.ext rfl (String.toList_inj.1 sameText)
  have covered := (lexical.covers_next more).text
  rw [sameText] at covered
  refine ⟨(lexical.next stream).2, List.append_cancel_left (covered.symm.trans going), ?_⟩
  rw [TokenSource.words_next running]
  show (if (lexical.next stream).1.isHidden then [] else [(lexical.next stream).1.word]) ++ _ = _
  simp only [isHidden_next_iff more, word]
  rfl

/-- A lexeme in front of a space, or of the end, is the first word. -/
theorem words_lexeme {text : String} (lexeme : IsLexeme kind text.toList)
    (going : stream.rest = text.toList ++ behind)
    (apart : behind = [] ∨ ∃ more, behind = ' ' :: more) :
    ∃ after : CharStream, after.rest = behind ∧
      (TokenSource.lexer lexical stream).words =
        (kind, text) :: (TokenSource.lexer lexical after).words := by
  have more : stream.rest ≠ [] := by simp [going, lexeme.fits.ne_nil]
  have described : Matches stream.rest :=
    ⟨kind, text.toList, lexeme.fits.ne_nil, going ▸ List.prefix_append _ _, lexeme.fits⟩
  have munches := munches_next described more
  rw [going] at munches
  obtain ⟨sameKind, sameText⟩ := lexeme.eq_of_munches apart munches
  obtain ⟨after, rest, words⟩ := words_of_next going more sameKind sameText
  rw [if_neg lexeme.visible] at words
  exact ⟨after, rest, words⟩

/-- A space in front of a lexeme is no word. -/
theorem words_space (going : stream.rest = ' ' :: behind)
    (apart : ∀ d tail, behind = d :: tail → d ∉ blanks) :
    ∃ after : CharStream, after.rest = behind ∧
      (TokenSource.lexer lexical stream).words = (TokenSource.lexer lexical after).words := by
  have more : stream.rest ≠ [] := by simp [going]
  have described : Matches stream.rest := by
    refine ⟨blankKind, [' '], List.cons_ne_nil _ _, ?_, (fits_blank (by decide)).2 ⟨rfl, nofun⟩⟩
    rw [going]
    exact (List.prefix_cons_inj ' ').2 List.nil_prefix
  have munches := munches_next described more
  rw [going] at munches
  obtain ⟨tail, same, front⟩ := exists_tail munches.front munches.nonempty
  have fits := munches.fits
  rw [same] at fits
  obtain ⟨sameKind, inside⟩ := (fits_blank (by decide)).1 fits
  have alone : tail = [] := by
    cases tail with
    | nil => rfl
    | cons d tail =>
      obtain ⟨further, rfl⟩ := front
      exact absurd (inside d List.mem_cons_self) (apart d _ rfl)
  rw [alone] at same
  have spaced : stream.rest = " ".toList ++ behind := going
  obtain ⟨after, rest, words⟩ := words_of_next spaced more sameKind same
  rw [if_pos List.mem_cons_self] at words
  exact ⟨after, rest, words⟩

/-- The texts of words with single spaces between them. -/
def joined (printed : List (Kind × String)) : String :=
  " ".intercalate (printed.map Prod.snd)

/-- The words of a script. -/
def scriptWords (name text : String) : List (Kind × String) :=
  (TokenSource.lexer lexical (CharStream.ofText name text)).words

/-- Lexemes with single spaces between them start with no blank. -/
theorem not_mem_blanks_intercalate {printed : List (Kind × String)}
    (lexemes : ∀ word ∈ printed, IsLexeme word.1 word.2.toList) (d : Char) (tail : List Char)
    (starts : [' '].intercalate (printed.map fun word => word.2.toList) = d :: tail) :
    d ∉ blanks := by
  cases printed with
  | nil => cases starts
  | cons first printed =>
    have lexeme : IsLexeme first.1 first.2.toList := lexemes first List.mem_cons_self
    obtain ⟨c, body, spelled⟩ := List.exists_cons_of_ne_nil lexeme.fits.ne_nil
    rw [spelled] at lexeme
    have front : d = c := by
      cases printed with
      | nil =>
        rw [List.map_cons, List.map_nil, List.intercalate_singleton, spelled] at starts
        exact (List.cons.inj starts).1.symm
      | cons second printed =>
        rw [List.map_cons, List.map_cons, List.intercalate_cons_cons, spelled] at starts
        exact (List.cons.inj starts).1.symm
    exact front ▸ lexeme.not_mem_blanks

/-- Lexemes with single spaces between them are read one after the other. -/
theorem words_joined {printed : List (Kind × String)}
    (lexemes : ∀ word ∈ printed, IsLexeme word.1 word.2.toList)
    (going : stream.rest = [' '].intercalate (printed.map fun word => word.2.toList)) :
    (TokenSource.lexer lexical stream).words = printed := by
  induction printed generalizing stream with
  | nil =>
    have used : stream.rest = [] := going
    apply TokenSource.words_of_isEof
    exact congrArg (fun answer => answer.1.isEof) (lexical.next_of_rest_nil used)
  | cons word printed ih =>
    obtain ⟨kind, text⟩ := word
    have lexeme : IsLexeme kind text.toList := lexemes _ List.mem_cons_self
    have others : ∀ word ∈ printed, IsLexeme word.1 word.2.toList :=
      fun word found => lexemes word (List.mem_cons_of_mem _ found)
    cases printed with
    | nil =>
      have last : stream.rest = text.toList ++ [] := by
        rw [List.append_nil, going]
        exact List.intercalate_singleton
      obtain ⟨after, rest, words⟩ := words_lexeme lexeme last (.inl rfl)
      rw [words, ih others rest]
    | cons second printed =>
      have front : stream.rest = text.toList ++ ' ' :: [' '].intercalate
          ((second :: printed).map fun word => word.2.toList) := by
        rw [going, List.map_cons, List.map_cons, List.intercalate_cons_cons, List.append_assoc]
        rfl
      obtain ⟨between, space, words⟩ := words_lexeme lexeme front (.inr ⟨_, rfl⟩)
      obtain ⟨after, rest, further⟩ := words_space space (not_mem_blanks_intercalate others)
      rw [words, further, ih others rest]

/-- The words of a script without invalid tokens are lexemes. -/
theorem isLexeme_of_mem_words (valid : ∀ token ∈ (TokenSource.lexer lexical stream).tokens,
      token.kind ≠ .invalid) :
    ∀ word ∈ (TokenSource.lexer lexical stream).words, IsLexeme word.1 word.2.toList := by
  intro word found
  obtain ⟨token, member, rfl⟩ := List.mem_map.1 found
  obtain ⟨seen, notEnd⟩ := List.mem_filter.1 member
  obtain ⟨handed, seen⟩ := List.mem_filter.1 seen
  have going : token.isEof = false := by simpa using notEnd
  have visible : token.isHidden = false := by simpa [Token.isSeen, going] using seen
  obtain ⟨place, index, more, rfl⟩ := TokenSource.exists_next_of_mem_tokensFrom handed going
  have known : (lexical.next place).1.kind ≠ .invalid :=
    valid ((lexical.next place).1.number index) handed
  have munches := munches_next (matches_of_kind_ne more known) more
  have shown : (lexical.next place).1.kind ∉ [blankKind, commentKind] := by
    rw [← isHidden_next_iff more, Bool.not_eq_true]
    exact visible
  exact munches.isLexeme shown

/-- Lexemes of visible kinds with single spaces between them are the words of the script that they
make. So the words of a script without invalid tokens, with single spaces between them, make a
script with the same words. -/
theorem scriptWords_joined (name : String) :
    (∀ printed : List (Kind × String), (∀ word ∈ printed, IsLexeme word.1 word.2.toList) →
      scriptWords name (joined printed) = printed) ∧
    ∀ script text : String,
      (∀ token ∈ (TokenSource.lexer lexical (CharStream.ofText script text)).tokens,
        token.kind ≠ .invalid) →
      scriptWords name (joined (scriptWords script text)) = scriptWords script text := by
  have printing (printed : List (Kind × String))
      (lexemes : ∀ word ∈ printed, IsLexeme word.1 word.2.toList) :
      scriptWords name (joined printed) = printed := by
    apply words_joined lexemes
    rw [CharStream.rest_ofText, joined, String.toList_intercalate, List.map_map]
    rfl
  refine ⟨printing, fun script text valid => ?_⟩
  exact printing _ (isLexeme_of_mem_words valid)

/-- Two slashes that would start a comment, a name in front of a keyword, and a string that goes on
behind the end of its line with a quote and slashes in it; and a script without spaces between its
words. -/
theorem scriptWords_joined_string :
    let printed := [(slashKind, "/"), (slashKind, "/"), (nameKind, "x"), (letKind, "let"),
      (stringKind, "\"a \\\n \\\" // b\"")]
    let text := "x1=\"\\\n\";// y\n"
    (∀ word ∈ printed, IsLexeme word.1 word.2.toList) ∧
      scriptWords "printed" "/ / x let \"a \\\n \\\" // b\"" = printed ∧
      (∀ token ∈ (TokenSource.lexer lexical (CharStream.ofText "script" text)).tokens,
        token.kind ≠ .invalid) ∧
      scriptWords "printed" "x1 = \"\\\n\" ;" = scriptWords "script" text := by
  intro printed text
  have lexemes : ∀ word ∈ printed, IsLexeme word.1 word.2.toList := by
    simp only [printed, List.forall_mem_cons]
    have closes : "a \\\n \\\" // b\"".toList ∈ closing := by simp [cons_mem_closing]
    have slash : IsLexeme slashKind ['/'] :=
      ⟨fits_slash.2 (.inl ⟨rfl, rfl⟩), by decide, by decide⟩
    have name : IsLexeme nameKind ['x'] :=
      ⟨(fits_name (by decide)).2 (.inr (.inr ⟨rfl, nofun⟩)), by decide, by decide⟩
    have keyword : IsLexeme letKind ['l', 'e', 't'] :=
      ⟨(fits_name (by decide)).2 (.inl ⟨rfl, rfl⟩), by decide, by decide⟩
    exact ⟨slash, slash, name, keyword, ⟨fits_quote.2 ⟨rfl, closes⟩, by decide, by decide⟩, nofun⟩
  have sound : ((TokenSource.lexer lexical (CharStream.ofText "script" text)).tokens.all
      fun token => token.kind != .invalid) = true := by decide +kernel
  have valid : ∀ token ∈ (TokenSource.lexer lexical (CharStream.ofText "script" text)).tokens,
      token.kind ≠ .invalid := by
    simpa using sound
  have again : joined (scriptWords "script" text) = "x1 = \"\\\n\" ;" := by decide +kernel
  refine ⟨lexemes, (scriptWords_joined "printed").1 printed lexemes, valid, ?_⟩
  rw [← again]
  exact (scriptWords_joined "printed").2 "script" text valid

end Snafu

end Conformance
