import Conformance.Proofs.Text.JsonGrammar

/-!
# A document has one value

Read from the left, the grammar of JSON leaves no choice. The first character of a value tells its
kind, and the character after it cannot belong to it, unless it is a digit after a number. So
whatever is written behind a value, the whole determines the value and where it ends. In particular
a document stands for a single value, and different values are written differently.
-/

namespace Conformance.JsonValue

/-! ## Boundaries -/

/-- Characters that may stand between the parts of a document. -/
abbrev blanks : List Char := [' ', '\t', '\n', '\r']

/-- The digits of numbers. -/
abbrev digits : List Char := (List.range 10).map Nat.digitChar

/-- That no character of a list is in another one is decided character by character. -/
theorem apart_of_all {chars others : List Char}
    (all : (chars.all fun c => decide (c ∉ others)) = true) : ∀ c ∈ chars, c ∉ others :=
  fun c member => of_decide_eq_true (List.all_eq_true.1 all c member)

/-- The first character, if there is one, is not among those that are known. -/
def Avoids (known chars : List Char) : Prop :=
  ∀ c rest, chars = c :: rest → c ∉ known

/-- A first character that is not known is avoided. -/
theorem avoids_cons {known : List Char} {c : Char} (other : c ∉ known) (rest : List Char) :
    Avoids known (c :: rest) := by
  intro first others same
  cases same
  exact other

/-- No digit comes after a blank. -/
theorem IsBlank.avoids_digits {blank rest : List Char} (isBlank : IsBlank blank)
    (avoids : Avoids digits rest) : Avoids digits (blank ++ rest) := by
  have apart : ∀ c ∈ blanks, c ∉ digits := apart_of_all (by decide)
  cases blank with
  | nil => exact avoids
  | cons c blank => exact avoids_cons (apart c (isBlank c List.mem_cons_self)) _

/-- Where known characters end is seen from what comes after them. -/
theorem append_unique {known front front' rest rest' : List Char} (inside : ∀ c ∈ front, c ∈ known)
    (inside' : ∀ c ∈ front', c ∈ known) (avoids : Avoids known rest)
    (avoids' : Avoids known rest') (same : front ++ rest = front' ++ rest') :
    front = front' ∧ rest = rest' := by
  induction front generalizing front' with
  | nil =>
    cases front' with
    | nil => exact ⟨rfl, same⟩
    | cons c front' => exact absurd (inside' c List.mem_cons_self) (avoids c _ same)
  | cons c front ih =>
    cases front' with
    | nil => exact absurd (inside c List.mem_cons_self) (avoids' c _ same.symm)
    | cons c' front' =>
      obtain ⟨rfl, others⟩ := List.cons.inj same
      have later := ih (fun c member => inside c (List.mem_cons_of_mem _ member))
        (fun c member => inside' c (List.mem_cons_of_mem _ member)) others
      exact ⟨congrArg _ later.1, later.2⟩

/-! ## Numbers -/

/-- A number is written in digits. -/
theorem SpellsNumber.mem_digits {number : Nat} {chars : List Char}
    (spells : SpellsNumber number chars) : ∀ c ∈ chars, c ∈ digits := by
  have known : ∀ {digit : Nat}, digit < 10 → digit.digitChar ∈ digits := fun small =>
    List.mem_map_of_mem (List.mem_range.2 small)
  induction spells with
  | digit small =>
    rw [List.forall_mem_singleton]
    exact known small
  | append front positive small ih =>
    rw [List.forall_mem_append, List.forall_mem_singleton]
    exact ⟨ih, known small⟩

/-- Digits stand for the number that they make up. -/
theorem SpellsNumber.ofDigitChars_eq {number : Nat} {chars : List Char}
    (spells : SpellsNumber number chars) : Nat.ofDigitChars 10 chars 0 = number := by
  have single : ∀ {digit : Nat}, digit < 10 → ∀ before,
      Nat.ofDigitChars 10 [digit.digitChar] before = 10 * before + digit := by
    intro digit small before
    rw [Nat.ofDigitChars_cons, Nat.ofDigitChars_nil]
    exact congrArg _ (Nat.toNat_digitChar_sub_48_of_lt_ten small)
  induction spells with
  | digit small => rw [single small, Nat.mul_zero, Nat.zero_add]
  | append front positive small ih => rw [Nat.ofDigitChars_append, ih, single small]

/-! ## Texts -/

/-- What is written stands for a character of a text. -/
inductive SpellsChar : Char → List Char → Prop where
  /-- A character that is neither a quote nor a backslash stands for itself. -/
  | plain {c : Char} (quote : c ≠ '"') (backslash : c ≠ '\\') : SpellsChar c [c]
  /-- A backslash with a letter stands for the character of the escape. -/
  | escape {letter c : Char} (known : (letter, c) ∈ escapes) : SpellsChar c ['\\', letter]
  /-- The code of a character stands for it. -/
  | code {c : Char} {code : List Char} (spells : SpellsCode c.toNat code) : SpellsChar c code
  /-- So do the codes of its two parts. -/
  | pair {c : Char} {high low : Nat} {codeHigh codeLow : List Char}
      (spellsHigh : SpellsCode (0xD800 + high) codeHigh) (small : high < 0x400)
      (spellsLow : SpellsCode (0xDC00 + low) codeLow)
      (joined : c.toNat = 0x10000 + 0x400 * high + low) : SpellsChar c (codeHigh ++ codeLow)

/-- A text is written character by character. -/
theorem SpellsText.cons {c : Char} {text chars : List Char}
    (spells : SpellsText (c :: text) chars) :
    ∃ piece rest, SpellsChar c piece ∧ SpellsText text rest ∧ chars = piece ++ rest := by
  cases spells with
  | plain quote backslash visible rest => exact ⟨_, _, .plain quote backslash, rest, rfl⟩
  | escape known rest => exact ⟨_, _, .escape known, rest, rfl⟩
  | code spells rest => exact ⟨_, _, .code spells, rest, rfl⟩
  | pair spellsHigh small spellsLow small' joined rest =>
    exact ⟨_, _, .pair spellsHigh small spellsLow joined, rest, rfl⟩

/-- A hexadecimal digit stands for one number. -/
theorem IsHexDigit.unique {first second : Nat} {c : Char} (digit : IsHexDigit first c)
    (digit' : IsHexDigit second c) : first = second := by
  have apart : ∀ first < 16, ∀ second < 16,
      first.digitChar = second.digitChar ∨ first.digitChar = second.digitChar.toUpper ∨
        first.digitChar.toUpper = second.digitChar ∨
          first.digitChar.toUpper = second.digitChar.toUpper → first = second := by decide
  apply apart first digit.1 second digit'.1
  rcases digit.2 with rfl | rfl
  · rcases digit'.2 with same | same
    · exact .inl same
    · exact .inr (.inl same)
  · rcases digit'.2 with same | same
    · exact .inr (.inr (.inl same))
    · exact .inr (.inr (.inr same))

/-- Whatever comes after a code, the whole determines its number and its end. -/
theorem SpellsCode.unique {first second : Nat} {chars chars' rest rest' : List Char}
    (spells : SpellsCode first chars) (spells' : SpellsCode second chars')
    (same : chars ++ rest = chars' ++ rest') : first = second ∧ chars = chars' := by
  obtain ⟨a, b, c, d, _, _, _, _, isA, isB, isC, isD, rfl, rfl⟩ := spells
  obtain ⟨a', b', c', d', _, _, _, _, isA', isB', isC', isD', rfl, rfl⟩ := spells'
  cases same
  rw [isA.unique isA', isB.unique isB', isC.unique isC', isD.unique isD']
  exact ⟨rfl, rfl⟩

/-- A code starts with a backslash and a small u. -/
theorem SpellsCode.start {number : Nat} {chars : List Char} (spells : SpellsCode number chars) :
    ∃ rest, chars = '\\' :: 'u' :: rest := by
  obtain ⟨_, _, _, _, _, _, _, _, -, -, -, -, -, rfl⟩ := spells
  exact ⟨_, rfl⟩

/-- The code of a character is not the first one of two. -/
theorem toNat_ne_high (c : Char) {high : Nat} (small : high < 0x400) :
    c.toNat ≠ 0xD800 + high := by
  intro same
  rcases c.valid with low | large
  · have below : c.toNat < 0xD800 := low
    omega
  · have above : 0xDFFF < c.toNat := large.1
    omega

/-- The letter of an escape stands for one character. -/
theorem escapes_unique {letter c c' : Char} (known : (letter, c) ∈ escapes)
    (known' : (letter, c') ∈ escapes) : c = c' := by
  have apart : ∀ first ∈ escapes, ∀ second ∈ escapes, first.1 = second.1 → first.2 = second.2 := by
    decide
  exact apart _ known _ known' rfl

/-- What is written for a character starts with one that is no quote. -/
theorem SpellsChar.start {c : Char} {chars : List Char} (spells : SpellsChar c chars) :
    ∃ first rest, chars = first :: rest ∧ first ≠ '"' := by
  have backslash : '\\' ≠ '"' := by decide
  cases spells with
  | plain quote => exact ⟨c, [], rfl, quote⟩
  | escape => exact ⟨_, _, rfl, backslash⟩
  | code spells =>
    obtain ⟨rest, rfl⟩ := spells.start
    exact ⟨_, _, rfl, backslash⟩
  | pair spellsHigh =>
    obtain ⟨rest, rfl⟩ := spellsHigh.start
    exact ⟨_, _, rfl, backslash⟩

/-- Neither a character that stands for itself nor an escape is the start of a code. -/
theorem SpellsCode.append_ne {number : Nat} {code rest rest' : List Char}
    (spells : SpellsCode number code) :
    (∀ c ≠ '\\', c :: rest ≠ code ++ rest') ∧
      ∀ letter c, (letter, c) ∈ escapes → '\\' :: letter :: rest ≠ code ++ rest' := by
  obtain ⟨others, rfl⟩ := spells.start
  constructor
  · intro c backslash same
    cases same
    exact backslash rfl
  · intro letter c known same
    cases same
    have unknown : ∀ entry ∈ escapes, entry.1 ≠ 'u' := by decide
    exact unknown _ known rfl

/-- Whatever comes after a character, the whole determines it and its end. -/
theorem SpellsChar.unique {c c' : Char} {chars chars' rest rest' : List Char}
    (spells : SpellsChar c chars) (spells' : SpellsChar c' chars')
    (same : chars ++ rest = chars' ++ rest') : c = c' ∧ chars = chars' := by
  cases spells with
  | plain quote backslash =>
    cases spells' with
    | plain =>
      cases same
      exact ⟨rfl, rfl⟩
    | escape =>
      cases same
      exact absurd rfl backslash
    | code code' => exact absurd same (code'.append_ne.1 c backslash)
    | pair high' =>
      rw [List.append_assoc] at same
      exact absurd same (high'.append_ne.1 c backslash)
  | escape known =>
    cases spells' with
    | plain quote backslash =>
      cases same
      exact absurd rfl backslash
    | escape known' =>
      cases same
      exact ⟨escapes_unique known known', rfl⟩
    | code code' => exact absurd same (code'.append_ne.2 _ _ known)
    | pair high' =>
      rw [List.append_assoc] at same
      exact absurd same (high'.append_ne.2 _ _ known)
  | code code =>
    cases spells' with
    | plain quote backslash => exact absurd same.symm (code.append_ne.1 c' backslash)
    | escape known => exact absurd same.symm (code.append_ne.2 _ _ known)
    | code code' =>
      obtain ⟨number, ends⟩ := code.unique code' same
      exact ⟨Char.toNat_inj.1 number, ends⟩
    | pair high' small =>
      rw [List.append_assoc] at same
      exact absurd (code.unique high' same).1 (toNat_ne_high c small)
  | pair high small low joined =>
    rw [List.append_assoc] at same
    cases spells' with
    | plain quote backslash => exact absurd same.symm (high.append_ne.1 c' backslash)
    | escape known => exact absurd same.symm (high.append_ne.2 _ _ known)
    | code code' => exact absurd (high.unique code' same).1.symm (toNat_ne_high c' small)
    | pair high' small' low' joined' =>
      rw [List.append_assoc] at same
      obtain ⟨first, rfl⟩ := high.unique high' same
      obtain ⟨second, rfl⟩ := low.unique low' (List.append_cancel_left same)
      refine ⟨Char.toNat_inj.1 ?_, rfl⟩
      omega

/-- A quote ends a text, whatever comes after it. -/
theorem SpellsText.unique {text text' chars chars' rest rest' : List Char}
    (spells : SpellsText text chars) (spells' : SpellsText text' chars')
    (same : chars ++ '"' :: rest = chars' ++ '"' :: rest') : text = text' ∧ chars = chars' := by
  have ends : ∀ {c : Char} {piece others after after' : List Char}, SpellsChar c piece →
      '"' :: after ≠ piece ++ others ++ '"' :: after' := by
    intro c piece others after after' spells same
    obtain ⟨first, others, rfl, other⟩ := spells.start
    cases same
    exact other rfl
  induction text generalizing text' chars chars' with
  | nil =>
    cases spells
    cases text' with
    | nil =>
      cases spells'
      exact ⟨rfl, rfl⟩
    | cons c' text' =>
      obtain ⟨piece', others', first', -, rfl⟩ := spells'.cons
      exact absurd same (ends first')
  | cons c text ih =>
    obtain ⟨piece, others, first, later, rfl⟩ := spells.cons
    cases text' with
    | nil =>
      cases spells'
      exact absurd same.symm (ends first)
    | cons c' text' =>
      obtain ⟨piece', others', first', later', rfl⟩ := spells'.cons
      rw [List.append_assoc, List.append_assoc] at same
      obtain ⟨rfl, rfl⟩ := first.unique first' same
      obtain ⟨rfl, rfl⟩ := ih later later' (List.append_cancel_left same)
      exact ⟨rfl, rfl⟩

/-- Whatever comes after a text in quotes, the whole determines it and its end. -/
theorem SpellsQuoted.unique {text text' : String} {chars chars' rest rest' : List Char}
    (spells : SpellsQuoted text chars) (spells' : SpellsQuoted text' chars')
    (same : chars ++ rest = chars' ++ rest') : text = text' ∧ chars = chars' := by
  obtain ⟨body, inside, rfl⟩ := spells
  obtain ⟨body', inside', rfl⟩ := spells'
  rw [List.cons_append, List.cons_append, List.append_assoc, List.append_assoc] at same
  obtain ⟨texts, rfl⟩ := inside.unique inside' (List.cons.inj same).2
  exact ⟨String.toList_inj.1 texts, rfl⟩

/-! ## Entries -/

/-- Up to a length, what is written stands for one thing, and shows where it ends when no digit
comes after it. -/
def Definite {α : Type} (spells : α → List Char → Prop) (bound : Nat) : Prop :=
  ∀ {first second : α} {chars chars' rest rest' : List Char}, spells first chars →
    spells second chars' → chars.length < bound → Avoids digits rest → Avoids digits rest' →
      chars ++ rest = chars' ++ rest' → first = second ∧ chars = chars'

/-- What is written starts as values do. -/
def Opens {α : Type} (spells : α → List Char → Prop) : Prop :=
  ∀ {entry : α} {chars : List Char}, spells entry chars → ∃ c rest, chars = c :: rest ∧ c ∈ starts

/-- There is no blank at the start of a value. -/
theorem Opens.avoids_blanks {α : Type} {spells : α → List Char → Prop} (opens : Opens spells)
    {entry : α} {chars : List Char} (spelled : spells entry chars) (rest : List Char) :
    Avoids blanks (chars ++ rest) := by
  have apart : ∀ c ∈ starts, c ∉ blanks := apart_of_all (by decide)
  obtain ⟨c, others, rfl, known⟩ := opens spelled
  exact avoids_cons (apart c known) _

/-- A field starts with the quote of its name. -/
theorem opens_field (spells : JsonValue → List Char → Prop) : Opens (SpellsField spells) := by
  intro entry chars field
  cases field with
  | mk named isBlank isBlank' spelled =>
    obtain ⟨body, -, rfl⟩ := named
    exact ⟨_, _, rfl, by decide⟩

/-- Fields are definite if values are. -/
theorem Definite.field {spells : JsonValue → List Char → Prop} {bound : Nat}
    (opens : Opens spells) (definite : Definite spells bound) :
    Definite (SpellsField spells) bound := by
  intro first second chars chars' rest rest' field field' short avoids avoids' same
  cases field with
  | @mk name value quoted before after inner named isBlank isBlank' spelled =>
    cases field' with
    | @mk name' value' quoted' before' after' inner' named' blank blank' spelled' =>
      have colon : ∀ others, Avoids blanks (':' :: others) := avoids_cons (by decide)
      simp only [List.append_assoc, List.cons_append] at same
      obtain ⟨rfl, rfl⟩ := named.unique named' same
      obtain ⟨rfl, behind⟩ := append_unique isBlank blank (colon _) (colon _)
        (List.append_cancel_left same)
      obtain ⟨rfl, values⟩ := append_unique isBlank' blank' (opens.avoids_blanks spelled rest)
        (opens.avoids_blanks spelled' rest') (List.cons.inj behind).2
      have shorter : inner.length < bound := by
        simp only [List.length_append, List.length_cons] at short
        omega
      obtain ⟨rfl, rfl⟩ := definite spelled spelled' shorter avoids avoids' values
      exact ⟨rfl, rfl⟩

section

variable {α : Type} {spells : α → List Char → Prop} {bound : Nat} {closing : Char}
  {rest rest' : List Char}

/-- A comma or a closing bracket is neither a blank nor a digit. -/
theorem avoids_of_mem {c : Char} (known : c ∈ [',', ']', '\x7d']) (rest : List Char) :
    Avoids blanks (c :: rest) ∧ Avoids digits (c :: rest) := by
  have blank : ∀ c ∈ [',', ']', '\x7d'], c ∉ blanks := apart_of_all (by decide)
  have digit : ∀ c ∈ [',', ']', '\x7d'], c ∉ digits := apart_of_all (by decide)
  exact ⟨avoids_cons (blank c known) rest, avoids_cons (digit c known) rest⟩

/-- The first entry, the blanks around it and the comma or bracket after it are determined. -/
theorem Definite.entry (definite : Definite spells bound) (opens : Opens spells)
    {entry entry' : α} {before before' chars chars' after after' : List Char} {c c' : Char}
    (isBlank : IsBlank before) (spelled : spells entry chars) (isBlank' : IsBlank after)
    (blank : IsBlank before') (spelled' : spells entry' chars') (blank' : IsBlank after')
    (known : c ∈ [',', ']', '\x7d']) (known' : c' ∈ [',', ']', '\x7d'])
    (short : chars.length < bound)
    (same : before ++ chars ++ after ++ c :: rest = before' ++ chars' ++ after' ++ c' :: rest') :
    entry = entry' ∧ before ++ chars ++ after = before' ++ chars' ++ after' ∧ c = c' ∧
      rest = rest' := by
  have ends := avoids_of_mem known rest
  have ends' := avoids_of_mem known' rest'
  simp only [List.append_assoc] at same
  obtain ⟨rfl, inner⟩ := append_unique isBlank blank (opens.avoids_blanks spelled _)
    (opens.avoids_blanks spelled' _) same
  obtain ⟨rfl, rfl⟩ := definite spelled spelled' short (isBlank'.avoids_digits ends.2)
    (blank'.avoids_digits ends'.2) inner
  obtain ⟨rfl, behind⟩ := append_unique isBlank' blank' ends.1 ends'.1
    (List.append_cancel_left inner)
  exact ⟨rfl, rfl, List.cons.inj behind⟩

/-- The bracket after entries ends them, if the entries are definite. -/
theorem SpellsEntries.unique (definite : Definite spells bound) (opens : Opens spells)
    (isClosing : closing ∈ [']', '\x7d']) {entries entries' : List α} {chars chars' : List Char}
    (spelled : SpellsEntries spells entries chars) (short : chars.length < bound)
    (spelled' : SpellsEntries spells entries' chars')
    (same : chars ++ closing :: rest = chars' ++ closing :: rest') :
    entries = entries' ∧ chars = chars' := by
  have comma : closing ≠ ',' := by
    rintro rfl
    exact absurd isClosing (by decide)
  have known : closing ∈ [',', ']', '\x7d'] := List.mem_cons_of_mem _ isClosing
  have known' : ',' ∈ [',', ']', '\x7d'] := List.mem_cons_self
  induction spelled generalizing entries' chars' with
  | last isBlank first isBlank' =>
    have shorter := short
    simp only [List.length_append] at shorter
    cases spelled' with
    | last blank first' blank' =>
      obtain ⟨rfl, whole, -⟩ := definite.entry opens isBlank first isBlank' blank first' blank'
        known known (by omega) same
      exact ⟨rfl, whole⟩
    | cons blank first' blank' others' =>
      rw [List.append_assoc _ (',' :: _)] at same
      obtain ⟨-, -, other, -⟩ := definite.entry opens isBlank first isBlank' blank first' blank'
        known known' (by omega) same
      exact absurd other comma
  | cons isBlank first isBlank' others ih =>
    have shorter := short
    simp only [List.length_append, List.length_cons] at shorter
    rw [List.append_assoc _ (',' :: _)] at same
    cases spelled' with
    | last blank first' blank' =>
      obtain ⟨-, -, other, -⟩ := definite.entry opens isBlank first isBlank' blank first' blank'
        known' known (by omega) same
      exact absurd other.symm comma
    | cons blank first' blank' others' =>
      rw [List.append_assoc _ (',' :: _)] at same
      obtain ⟨rfl, whole, -, behind⟩ := definite.entry opens isBlank first isBlank' blank first'
        blank' known' known' (by omega) same
      obtain ⟨rfl, rfl⟩ := ih (by omega) others' behind
      rw [whole]
      exact ⟨rfl, rfl⟩

/-- Entries are not just blanks. -/
theorem SpellsEntries.ne_blank (opens : Opens spells) (isClosing : closing ∈ [']', '\x7d'])
    {entries : List α} {chars blank : List Char} (spelled : SpellsEntries spells entries chars)
    (isBlank : IsBlank blank) : chars ++ closing :: rest ≠ blank ++ closing :: rest' := by
  have apart : ∀ c ∈ [']', '\x7d'], c ∉ starts := apart_of_all (by decide)
  have ends : ∀ others, Avoids blanks (closing :: others) := fun others =>
    (avoids_of_mem (List.mem_cons_of_mem _ isClosing) others).1
  have first : ∀ {before inner behind : List Char} {entry : α}, IsBlank before →
      spells entry inner → before ++ (inner ++ behind) ≠ blank ++ closing :: rest' := by
    intro before inner behind entry isBefore spelled same
    obtain ⟨-, reached⟩ := append_unique isBefore isBlank (opens.avoids_blanks spelled behind)
      (ends rest') same
    obtain ⟨c, others, rfl, known⟩ := opens spelled
    cases reached
    exact apart _ isClosing known
  cases spelled with
  | last isBefore spelled isAfter =>
    simp only [List.append_assoc]
    exact first isBefore spelled
  | cons isBefore spelled isAfter others =>
    simp only [List.append_assoc]
    exact first isBefore spelled

/-- What stands between brackets: blanks, or entries. -/
def SpellsInner (spells : α → List Char → Prop) (entries : List α) (chars : List Char) : Prop :=
  entries = [] ∧ IsBlank chars ∨ SpellsEntries spells entries chars

/-- A closing bracket ends what stands before it, if the entries are definite. -/
theorem SpellsInner.unique (definite : Definite spells bound) (opens : Opens spells)
    (isClosing : closing ∈ [']', '\x7d']) {entries entries' : List α} {chars chars' : List Char}
    (spelled : SpellsInner spells entries chars) (short : chars.length < bound)
    (spelled' : SpellsInner spells entries' chars')
    (same : chars ++ closing :: rest = chars' ++ closing :: rest') :
    entries = entries' ∧ chars = chars' := by
  have ends : ∀ others, Avoids blanks (closing :: others) := fun others =>
    (avoids_of_mem (List.mem_cons_of_mem _ isClosing) others).1
  rcases spelled with ⟨rfl, isBlank⟩ | spelled
  · rcases spelled' with ⟨rfl, isBlank'⟩ | spelled'
    · obtain ⟨rfl, -⟩ := append_unique isBlank isBlank' (ends rest) (ends rest') same
      exact ⟨rfl, rfl⟩
    · exact absurd same.symm (spelled'.ne_blank opens isClosing isBlank)
  · rcases spelled' with ⟨rfl, isBlank'⟩ | spelled'
    · exact absurd same (spelled.ne_blank opens isClosing isBlank')
    · exact spelled.unique definite opens isClosing short spelled' same

end

/-! ## Values -/

/-- A value starts as one does. -/
theorem opens_spells : Opens Spells := Spells.start

/-- The character that tells the kind of a value, a zero for any number. -/
def kind : JsonValue → Char
  | .null => 'n'
  | .flag true => 't'
  | .flag false => 'f'
  | .number _ => '0'
  | .text _ => '"'
  | .list _ => '['
  | .record _ => '\x7b'

/-- The first character of a value tells its kind. -/
theorem Spells.kind_eq {value : JsonValue} {chars : List Char} (spells : Spells value chars) :
    ∃ c rest, chars = c :: rest ∧ value.kind = if c ∈ digits then '0' else c := by
  cases spells with
  | null => exact ⟨_, _, rfl, rfl⟩
  | set => exact ⟨_, _, rfl, rfl⟩
  | unset => exact ⟨_, _, rfl, rfl⟩
  | number spells =>
    obtain ⟨c, rest, rfl, known⟩ := spells.start
    exact ⟨c, rest, rfl, (if_pos known).symm⟩
  | text quoted =>
    obtain ⟨body, -, rfl⟩ := quoted
    exact ⟨_, _, rfl, rfl⟩
  | emptyList isBlank => exact ⟨_, _, rfl, rfl⟩
  | list inner => exact ⟨_, _, rfl, rfl⟩
  | emptyRecord isBlank => exact ⟨_, _, rfl, rfl⟩
  | record inner => exact ⟨_, _, rfl, rfl⟩

/-- Values that are written with the same start are of one kind. -/
theorem Spells.same_kind {value value' : JsonValue} {chars chars' rest rest' : List Char}
    (spells : Spells value chars) (spells' : Spells value' chars')
    (same : chars ++ rest = chars' ++ rest') : value.kind = value'.kind := by
  obtain ⟨c, others, rfl, first⟩ := spells.kind_eq
  obtain ⟨c', others', rfl, first'⟩ := spells'.kind_eq
  obtain ⟨rfl, -⟩ := List.cons.inj same
  exact first.trans first'.symm

/-- A list has blanks or items between its brackets. -/
theorem Spells.inner_of_list {items : List JsonValue} {chars : List Char}
    (spells : Spells (.list items) chars) :
    ∃ inner, SpellsInner Spells items inner ∧ chars = '[' :: (inner ++ [']']) := by
  cases spells with
  | emptyList isBlank => exact ⟨_, .inl ⟨rfl, isBlank⟩, rfl⟩
  | list inner => exact ⟨_, .inr inner, rfl⟩

/-- A record has blanks or fields between its braces. -/
theorem Spells.inner_of_record {fields : List (String × JsonValue)} {chars : List Char}
    (spells : Spells (.record fields) chars) :
    ∃ inner, SpellsInner (SpellsField Spells) fields inner ∧
      chars = '\x7b' :: (inner ++ ['\x7d']) := by
  cases spells with
  | emptyRecord isBlank => exact ⟨_, .inl ⟨rfl, isBlank⟩, rfl⟩
  | record inner => exact ⟨_, .inr inner, rfl⟩

/-- Whatever comes after a value, unless it is a digit, the whole determines it and its end. What
stands between brackets is shorter than the whole, so the induction is on the length. -/
theorem definite_spells (bound : Nat) : Definite Spells bound := by
  induction bound with
  | zero =>
    intro first second chars chars' rest rest' spells spells' short
    exact absurd short (Nat.not_lt_zero _)
  | succ bound ih =>
    intro first second chars chars' rest rest' spells spells' short avoids avoids' same
    have kinds := spells.same_kind spells' same
    cases first with
    | null =>
      cases spells with
      | null =>
        cases spells' with
        | null => exact ⟨rfl, rfl⟩
        | _ => cases kinds
    | flag value =>
      cases spells with
      | set =>
        cases spells' with
        | set => exact ⟨rfl, rfl⟩
        | _ => cases kinds
      | unset =>
        cases spells' with
        | unset => exact ⟨rfl, rfl⟩
        | _ => cases kinds
    | number number =>
      cases spells with
      | number spells =>
        cases spells' with
        | number spells' =>
          obtain ⟨rfl, -⟩ := append_unique spells.mem_digits spells'.mem_digits avoids avoids' same
          rw [← spells.ofDigitChars_eq, ← spells'.ofDigitChars_eq]
          exact ⟨rfl, rfl⟩
        | _ => cases kinds
    | text text =>
      cases spells with
      | text quoted =>
        cases spells' with
        | text quoted' =>
          obtain ⟨rfl, rfl⟩ := quoted.unique quoted' same
          exact ⟨rfl, rfl⟩
        | _ => cases kinds
    | list items =>
      obtain ⟨inner, spelled, rfl⟩ := spells.inner_of_list
      cases second with
      | list items' =>
        obtain ⟨inner', spelled', rfl⟩ := spells'.inner_of_list
        simp only [List.length_cons, List.length_append] at short
        simp only [List.cons_append, List.append_assoc, List.nil_append] at same
        obtain ⟨rfl, rfl⟩ := spelled.unique ih opens_spells (by decide) (by omega) spelled'
          (List.cons.inj same).2
        exact ⟨rfl, rfl⟩
      | flag value => cases value <;> cases kinds
      | _ => cases kinds
    | record fields =>
      obtain ⟨inner, spelled, rfl⟩ := spells.inner_of_record
      cases second with
      | record fields' =>
        obtain ⟨inner', spelled', rfl⟩ := spells'.inner_of_record
        simp only [List.length_cons, List.length_append] at short
        simp only [List.cons_append, List.append_assoc, List.nil_append] at same
        obtain ⟨rfl, rfl⟩ := spelled.unique (Definite.field opens_spells ih) (opens_field Spells)
          (by decide) (by omega) spelled' (List.cons.inj same).2
        exact ⟨rfl, rfl⟩
      | flag value => cases value <;> cases kinds
      | _ => cases kinds

/-! ## Documents -/

/-- A document stands for a single value. -/
theorem IsDocument.unique {value value' : JsonValue} {chars : List Char}
    (document : IsDocument value chars) (document' : IsDocument value' chars) : value = value' := by
  obtain ⟨before, inner, after, isBlank, spells, isBlank', rfl⟩ := document
  obtain ⟨before', inner', after', blank, spells', blank', same⟩ := document'
  rw [List.append_assoc, List.append_assoc] at same
  obtain ⟨-, values⟩ := append_unique isBlank blank (opens_spells.avoids_blanks spells after)
    (opens_spells.avoids_blanks spells' after') same
  have nothing : Avoids digits [] := nofun
  have ends := isBlank'.avoids_digits nothing
  have ends' := blank'.avoids_digits nothing
  rw [List.append_nil] at ends ends'
  exact (definite_spells _ spells spells' (Nat.lt_succ_self _) ends ends' values).1

/-- Laid out in lines, a value is a document that stands for nothing else. -/
theorem isDocument_pretty_iff (value other : JsonValue) :
    IsDocument other value.pretty.toList ↔ other = value := by
  constructor
  · exact fun document => document.unique (isDocument_pretty value)
  · rintro rfl
    exact isDocument_pretty other

/-- So it is on one line. -/
theorem isDocument_compact_iff (value other : JsonValue) :
    IsDocument other value.compact.toList ↔ other = value := by
  constructor
  · exact fun document => document.unique (isDocument_compact value)
  · rintro rfl
    exact isDocument_compact other

end Conformance.JsonValue
