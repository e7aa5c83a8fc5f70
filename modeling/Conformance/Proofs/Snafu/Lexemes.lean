import Conformance.Grammar.Snafu.Lexical
import Conformance.Proofs.Token.Lexing
import Mathlib.Computability.Language
import Mathlib.Data.List.TakeWhile

/-!
# The lexemes of Snafu

The lexical rules of Snafu as languages, one for each terminal, and the lexer beside them: a lexeme
is the longest piece of the text that any rule describes, and its kind is that of the rule, where
keywords win over names. Where no rule describes a piece the lexeme is invalid.
-/

namespace Conformance.Snafu

open scoped Computability

/-! ## Lexical rules -/

/-- The characters of a class. -/
def oneOf (inClass : Char → Prop) : Language Char :=
  {word | ∃ c, inClass c ∧ word = [c]}

/-- A fixed text. -/
def literal (text : List Char) : Language Char :=
  {text}

/-- A letter from `a` to `z` or from `A` to `Z`, or `_`. -/
def IsNameStart (c : Char) : Prop :=
  'a' ≤ c ∧ c ≤ 'z' ∨ 'A' ≤ c ∧ c ≤ 'Z' ∨ c = '_'

/-- A digit from `0` to `9`. -/
def IsDigit (c : Char) : Prop :=
  '0' ≤ c ∧ c ≤ '9'

instance : DecidablePred IsNameStart := fun c =>
  inferInstanceAs (Decidable ('a' ≤ c ∧ c ≤ 'z' ∨ 'A' ≤ c ∧ c ≤ 'Z' ∨ c = '_'))

instance : DecidablePred IsDigit := fun c => inferInstanceAs (Decidable ('0' ≤ c ∧ c ≤ '9'))

/-- The characters of blanks. -/
def blanks : List Char := [' ', '\t', '\r', '\n']

/-- The characters that end a line. -/
def lineEnds : List Char := ['\r', '\n']

/-- What may stand between the quotes of a string: any character behind a backslash, and any other
but a quote, a backslash or an end of the line. -/
def stringItem : Language Char :=
  literal ['\\'] * oneOf (fun _ => True) + oneOf (· ∉ ['"', '\\', '\r', '\n'])

/-- The lexical rules, each with its kind. -/
def lexicalRules : List (Kind × Language Char) := [
  (semicolonKind, literal [';']),
  (assignKind, literal ['=']),
  (plusKind, literal ['+']),
  (minusKind, literal ['-']),
  (starKind, literal ['*']),
  (slashKind, literal ['/']),
  (openKind, literal ['(']),
  (closeKind, literal [')']),
  (letKind, literal ['l', 'e', 't']),
  (printKind, literal ['p', 'r', 'i', 'n', 't']),
  (nameKind, oneOf IsNameStart * (oneOf fun c => IsNameStart c ∨ IsDigit c)∗),
  (numberKind, oneOf IsDigit * (oneOf IsDigit)∗),
  (stringKind, literal ['"'] * (stringItem∗ * literal ['"'])),
  (blankKind, oneOf (· ∈ blanks) * (oneOf (· ∈ blanks))∗),
  (commentKind, literal ['/', '/'] * (oneOf (· ∉ lineEnds))∗)]

/-- A rule for a kind describes a piece of text. -/
def Fits (kind : Kind) (word : List Char) : Prop :=
  ∃ rule ∈ lexicalRules, kind = rule.1 ∧ word ∈ rule.2

/-! ## Words of the rules -/

/-- The language of a text holds that text alone. -/
theorem mem_literal {text word : List Char} : word ∈ literal text ↔ word = text :=
  Iff.rfl

/-- Characters of a class, repeated, are the words of such characters. -/
theorem mem_oneOf_kstar {inClass : Char → Prop} {word : List Char} :
    word ∈ (oneOf inClass)∗ ↔ ∀ c ∈ word, inClass c := by
  rw [Language.mem_kstar]
  constructor
  · rintro ⟨pieces, rfl, inside⟩ c found
    obtain ⟨piece, member, here⟩ := List.mem_flatten.1 found
    obtain ⟨d, holds, rfl⟩ := inside piece member
    exact List.mem_singleton.1 here ▸ holds
  · intro inside
    refine ⟨word.map fun c => [c], by simp [← List.flatMap_def], fun piece member => ?_⟩
    obtain ⟨c, found, rfl⟩ := List.mem_map.1 member
    exact ⟨c, inside c found, rfl⟩

/-- A run starts with a character of one class and goes on with some of another. -/
theorem cons_mem_run {first further : Char → Prop} {c : Char} {rest : List Char} :
    c :: rest ∈ oneOf first * (oneOf further)∗ ↔ first c ∧ ∀ d ∈ rest, further d := by
  rw [Language.mem_mul]
  constructor
  · rintro ⟨_, ⟨d, starts, rfl⟩, body, inside, same⟩
    cases same
    exact ⟨starts, mem_oneOf_kstar.1 inside⟩
  · rintro ⟨starts, inside⟩
    exact ⟨[c], ⟨c, starts, rfl⟩, rest, mem_oneOf_kstar.2 inside, rfl⟩

/-- What follows a fixed text. -/
theorem mem_literal_mul {text word : List Char} {words : Language Char} :
    word ∈ literal text * words ↔ ∃ rest ∈ words, word = text ++ rest := by
  rw [Language.mem_mul]
  constructor
  · rintro ⟨_, rfl, rest, inside, rfl⟩
    exact ⟨rest, inside, rfl⟩
  · rintro ⟨rest, inside, rfl⟩
    exact ⟨_, rfl, rest, inside, rfl⟩

/-- What closes a string behind its first quote. -/
def closing : Language Char := stringItem∗ * literal ['"']

/-- A string is closed by its quote, or it goes on with an escape or a plain character. -/
theorem mem_closing {word : List Char} :
    word ∈ closing ↔
      word = ['"'] ∨
        (∃ c rest, word = '\\' :: c :: rest ∧ rest ∈ closing) ∨
          ∃ c rest, word = c :: rest ∧ c ∉ ['"', '\\', '\r', '\n'] ∧ rest ∈ closing := by
  have unrolled : closing = literal ['"'] +
      (literal ['\\'] * (oneOf (fun _ => True) * closing) +
        oneOf (· ∉ ['"', '\\', '\r', '\n']) * closing) := by
    calc
      closing = (1 + stringItem * stringItem∗) * literal ['"'] := by
        rw [Language.one_add_self_mul_kstar_eq_kstar, closing]
      _ = literal ['"'] + stringItem * closing := by rw [add_mul, one_mul, mul_assoc, closing]
      _ = _ := by rw [stringItem, add_mul, mul_assoc]
  refine (iff_of_eq (congrArg (word ∈ ·) unrolled)).trans ?_
  rw [Language.mem_add, Language.mem_add, mem_literal, mem_literal_mul]
  refine or_congr_right (or_congr ?_ ?_)
  · constructor
    · rintro ⟨_, inside, rfl⟩
      obtain ⟨_, ⟨c, -, rfl⟩, rest, closes, rfl⟩ := Language.mem_mul.1 inside
      exact ⟨c, rest, rfl, closes⟩
    · rintro ⟨c, rest, rfl, closes⟩
      exact ⟨c :: rest, Language.mem_mul.2 ⟨[c], ⟨c, trivial, rfl⟩, rest, closes, rfl⟩, rfl⟩
  · constructor
    · intro inside
      obtain ⟨_, ⟨c, plain, rfl⟩, rest, closes, rfl⟩ := Language.mem_mul.1 inside
      exact ⟨c, rest, rfl, plain, closes⟩
    · rintro ⟨c, rest, rfl, plain, closes⟩
      exact Language.mem_mul.2 ⟨[c], ⟨c, plain, rfl⟩, rest, closes, rfl⟩

/-- The signs that are lexemes by themselves, each with its kind. -/
def signs : List (Kind × Char) := [(semicolonKind, ';'), (assignKind, '='), (plusKind, '+'),
  (minusKind, '-'), (starKind, '*'), (slashKind, '/'), (openKind, '('), (closeKind, ')')]

variable {kind : Kind} {c : Char} {tail : List Char}

/-- A comment by its first character. -/
theorem cons_mem_comment :
    c :: tail ∈ literal ['/', '/'] * (oneOf (· ∉ lineEnds))∗ ↔
      c = '/' ∧ ∃ body, tail = '/' :: body ∧ ∀ d ∈ body, d ∉ lineEnds := by
  rw [mem_literal_mul]
  constructor
  · rintro ⟨body, inside, same⟩
    cases same
    exact ⟨rfl, body, rfl, mem_oneOf_kstar.1 inside⟩
  · rintro ⟨rfl, body, rfl, inside⟩
    exact ⟨body, mem_oneOf_kstar.2 inside, rfl⟩

/-- A string by its first character. -/
theorem cons_mem_string :
    c :: tail ∈ literal ['"'] * (stringItem∗ * literal ['"']) ↔ c = '"' ∧ tail ∈ closing := by
  rw [mem_literal_mul]
  constructor
  · rintro ⟨rest, closes, same⟩
    cases same
    exact ⟨rfl, closes⟩
  · rintro ⟨rfl, closes⟩
    exact ⟨tail, closes, rfl⟩

/-- The rules by the first character of a piece. -/
theorem fits_cons :
    Fits kind (c :: tail) ↔
      (kind, c) ∈ signs ∧ tail = [] ∨
      kind = letKind ∧ c = 'l' ∧ tail = ['e', 't'] ∨
      kind = printKind ∧ c = 'p' ∧ tail = ['r', 'i', 'n', 't'] ∨
      kind = nameKind ∧ IsNameStart c ∧ (∀ d ∈ tail, IsNameStart d ∨ IsDigit d) ∨
      kind = numberKind ∧ IsDigit c ∧ (∀ d ∈ tail, IsDigit d) ∨
      kind = stringKind ∧ c = '"' ∧ tail ∈ closing ∨
      kind = blankKind ∧ c ∈ blanks ∧ (∀ d ∈ tail, d ∈ blanks) ∨
      kind = commentKind ∧ c = '/' ∧ ∃ body, tail = '/' :: body ∧ ∀ d ∈ body, d ∉ lineEnds := by
  simp only [Fits, lexicalRules, List.mem_cons, List.not_mem_nil, or_false, exists_or,
    exists_eq_left, mem_literal, cons_mem_run, cons_mem_string, cons_mem_comment, signs,
    Prod.mk.injEq, List.cons.injEq, or_and_right, and_assoc, or_assoc]

/-! ## Rules by the class of the first character -/

/-- A sign starts nothing but signs and comments. -/
theorem signs_apart (found : (kind, c) ∈ signs) :
    ¬ IsNameStart c ∧ ¬ IsDigit c ∧ c ∉ blanks ∧ c ≠ '"' := by
  have each : ∀ sign ∈ signs, ¬ IsNameStart sign.2 ∧ ¬ IsDigit sign.2 ∧ sign.2 ∉ blanks ∧
      sign.2 ≠ '"' := by decide
  exact each _ found

/-- Different signs have different kinds. -/
theorem signs_unique {other : Kind} (found : (kind, c) ∈ signs) (again : (other, c) ∈ signs) :
    other = kind := by
  have each : ∀ sign ∈ signs, ∀ again ∈ signs, again.2 = sign.2 → again.1 = sign.1 := by decide
  exact each _ found _ again rfl

/-- A blank starts nothing but blanks. -/
theorem blanks_apart (found : c ∈ blanks) : ¬ IsNameStart c ∧ ¬ IsDigit c ∧ c ≠ '"' := by
  simp only [blanks, List.mem_cons, List.not_mem_nil, or_false] at found
  rcases found with rfl | rfl | rfl | rfl <;> decide

/-- A digit starts no name. -/
theorem not_isNameStart_of_isDigit (digit : IsDigit c) : ¬ IsNameStart c := by
  rintro (⟨low, -⟩ | ⟨low, -⟩ | rfl)
  · exact absurd (Char.le_trans low digit.2) (by decide)
  · exact absurd (Char.le_trans low digit.2) (by decide)
  · exact absurd digit (by decide)

/-- A letter starts a name. -/
theorem isNameStart_of_keyword (letter : c = 'l' ∨ c = 'p') : IsNameStart c := by
  rcases letter with rfl | rfl <;> decide

/-- A sign other than the slash is a lexeme by itself. -/
theorem fits_sign {sign : Kind} (found : (sign, c) ∈ signs) (other : c ≠ '/') :
    Fits kind (c :: tail) ↔ kind = sign ∧ tail = [] := by
  obtain ⟨noName, noDigit, noBlank, noQuote⟩ := signs_apart found
  have noKeyword : ¬ (c = 'l' ∨ c = 'p') := mt isNameStart_of_keyword noName
  have single : (kind, c) ∈ signs ↔ kind = sign :=
    ⟨signs_unique found, fun same => same ▸ found⟩
  rw [not_or] at noKeyword
  simp only [fits_cons, single, noName, noDigit, noBlank, noQuote, noKeyword.1, noKeyword.2, other,
    false_and, and_false, or_false]

/-- A slash is a sign or starts a comment. -/
theorem fits_slash :
    Fits kind ('/' :: tail) ↔
      kind = slashKind ∧ tail = [] ∨
        kind = commentKind ∧ ∃ body, tail = '/' :: body ∧ ∀ d ∈ body, d ∉ lineEnds := by
  have single : (kind, '/') ∈ signs ↔ kind = slashKind :=
    ⟨signs_unique (by decide), fun same => same ▸ by decide⟩
  have apart : ¬ IsNameStart '/' ∧ ¬ IsDigit '/' ∧ '/' ∉ blanks := by decide
  simp [fits_cons, single, apart]

/-- A quote starts a string. -/
theorem fits_quote : Fits kind ('"' :: tail) ↔ kind = stringKind ∧ tail ∈ closing := by
  have apart : (kind, '"') ∉ signs ∧ ¬ IsNameStart '"' ∧ ¬ IsDigit '"' ∧ '"' ∉ blanks :=
    ⟨fun found => (signs_apart found).2.2.2 rfl, by decide, by decide, by decide⟩
  simp [fits_cons, apart]

/-- A digit starts a number. -/
theorem fits_digit (digit : IsDigit c) :
    Fits kind (c :: tail) ↔ kind = numberKind ∧ ∀ d ∈ tail, IsDigit d := by
  have noName : ¬ IsNameStart c := not_isNameStart_of_isDigit digit
  have noKeyword : ¬ (c = 'l' ∨ c = 'p') := mt isNameStart_of_keyword noName
  have noSign : (kind, c) ∉ signs := fun found => (signs_apart found).2.1 digit
  have noBlank : c ∉ blanks := fun found => (blanks_apart found).2.1 digit
  have noQuote : c ≠ '"' := by
    rintro rfl
    exact absurd digit (by decide)
  have noSlash : c ≠ '/' := by
    rintro rfl
    exact absurd digit (by decide)
  rw [not_or] at noKeyword
  simp only [fits_cons, noSign, noName, digit, noBlank, noQuote, noKeyword.1, noKeyword.2, noSlash,
    false_and, and_false, or_false, false_or, true_and]

/-- A letter starts a keyword or a name. -/
theorem fits_name (starts : IsNameStart c) :
    Fits kind (c :: tail) ↔
      kind = letKind ∧ c :: tail = ['l', 'e', 't'] ∨
        kind = printKind ∧ c :: tail = ['p', 'r', 'i', 'n', 't'] ∨
          kind = nameKind ∧ ∀ d ∈ tail, IsNameStart d ∨ IsDigit d := by
  have noSign : (kind, c) ∉ signs := fun found => (signs_apart found).1 starts
  have noDigit : ¬ IsDigit c := fun digit => not_isNameStart_of_isDigit digit starts
  have noBlank : c ∉ blanks := fun found => (blanks_apart found).1 starts
  have noQuote : c ≠ '"' := by
    rintro rfl
    exact absurd starts (by decide)
  have noSlash : c ≠ '/' := by
    rintro rfl
    exact absurd starts (by decide)
  simp only [fits_cons, noSign, noDigit, starts, noBlank, noQuote, noSlash, List.cons.injEq,
    false_and, and_false, or_false, false_or, true_and]

/-- A blank starts a run of blanks. -/
theorem fits_blank (blank : c ∈ blanks) :
    Fits kind (c :: tail) ↔ kind = blankKind ∧ ∀ d ∈ tail, d ∈ blanks := by
  obtain ⟨noName, noDigit, noQuote⟩ := blanks_apart blank
  have noKeyword : ¬ (c = 'l' ∨ c = 'p') := mt isNameStart_of_keyword noName
  have noSign : (kind, c) ∉ signs := fun found => (signs_apart found).2.2.1 blank
  have noSlash : c ≠ '/' := by
    rintro rfl
    exact absurd blank (by decide)
  rw [not_or] at noKeyword
  simp only [fits_cons, noSign, noName, noDigit, blank, noQuote, noKeyword.1, noKeyword.2, noSlash,
    false_and, and_false, or_false, false_or, true_and]

/-- Any other character starts nothing. -/
theorem not_fits_of_stray (noSign : ∀ sign, (sign, c) ∉ signs) (noQuote : c ≠ '"')
    (noDigit : ¬ IsDigit c) (noName : ¬ IsNameStart c) (noBlank : c ∉ blanks) :
    ¬ Fits kind (c :: tail) := by
  have noKeyword : ¬ (c = 'l' ∨ c = 'p') := mt isNameStart_of_keyword noName
  have noSlash : c ≠ '/' := by
    rintro rfl
    exact noSign slashKind (by decide)
  rw [not_or] at noKeyword
  simp only [fits_cons, noSign, noName, noDigit, noBlank, noQuote, noKeyword.1, noKeyword.2,
    noSlash, false_and, and_false, or_false, not_false_eq_true]

end Conformance.Snafu
