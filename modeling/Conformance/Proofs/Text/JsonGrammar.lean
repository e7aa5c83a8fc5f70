import Conformance.Text.JsonValue
import Mathlib.Data.List.Forall2

/-!
# The grammar of JSON documents

The grammar says which texts are JSON documents and what they stand for, whoever wrote them: values
with blanks around them, texts with any of the escapes, and numbers without needless zeros. Both
written forms of a value follow it.
-/

namespace Conformance

namespace JsonValue

/-! ## The grammar -/

/-- Characters that may stand between the parts of a document. -/
def IsBlank (chars : List Char) : Prop :=
  ∀ c ∈ chars, c ∈ [' ', '\t', '\n', '\r']

/-- Digits stand for a number. Only zero starts with a zero. -/
inductive SpellsNumber : Nat → List Char → Prop where
  /-- A digit stands for itself. -/
  | digit {digit : Nat} (small : digit < 10) : SpellsNumber digit [digit.digitChar]
  /-- A digit after others stands for itself and for ten times those. -/
  | append {number digit : Nat} {chars : List Char} (front : SpellsNumber number chars)
      (positive : 0 < number) (small : digit < 10) :
      SpellsNumber (10 * number + digit) (chars ++ [digit.digitChar])

/-- The letters of escapes and the characters that they stand for. -/
def escapes : List (Char × Char) :=
  [('"', '"'), ('\\', '\\'), ('/', '/'), ('b', '\x08'), ('f', '\x0C'), ('n', '\n'), ('r', '\r'),
    ('t', '\t')]

/-- A hexadecimal digit stands for a number. -/
def IsHexDigit (digit : Nat) (c : Char) : Prop :=
  digit < 16 ∧ (c = digit.digitChar ∨ c = digit.digitChar.toUpper)

/-- A backslash, a small u and four hexadecimal digits stand for a number. -/
def SpellsCode (code : Nat) (chars : List Char) : Prop :=
  ∃ a b c d a' b' c' d', IsHexDigit a a' ∧ IsHexDigit b b' ∧ IsHexDigit c c' ∧ IsHexDigit d d' ∧
    code = 4096 * a + 256 * b + 16 * c + d ∧ chars = ['\\', 'u', a', b', c', d']

/-- What is written between quotes stands for characters. -/
inductive SpellsText : List Char → List Char → Prop where
  /-- Nothing stands for nothing. -/
  | nil : SpellsText [] []
  /-- A character that is neither a quote nor a backslash nor a control stands for itself. -/
  | plain {c : Char} {text chars : List Char} (quote : c ≠ '"') (backslash : c ≠ '\\')
      (visible : 0x20 ≤ c.toNat) (rest : SpellsText text chars) :
      SpellsText (c :: text) (c :: chars)
  /-- A backslash with a letter stands for the character of the escape. -/
  | escape {letter c : Char} {text chars : List Char} (known : (letter, c) ∈ escapes)
      (rest : SpellsText text chars) : SpellsText (c :: text) ('\\' :: letter :: chars)
  /-- The code of a character stands for it. -/
  | code {c : Char} {text code chars : List Char} (spells : SpellsCode c.toNat code)
      (rest : SpellsText text chars) : SpellsText (c :: text) (code ++ chars)
  /-- A character beyond four digits is split into two codes. -/
  | pair {c : Char} {high low : Nat} {text codeHigh codeLow chars : List Char}
      (spellsHigh : SpellsCode (0xD800 + high) codeHigh) (small : high < 0x400)
      (spellsLow : SpellsCode (0xDC00 + low) codeLow) (small' : low < 0x400)
      (joined : c.toNat = 0x10000 + 0x400 * high + low) (rest : SpellsText text chars) :
      SpellsText (c :: text) (codeHigh ++ codeLow ++ chars)

/-- What is written with its quotes stands for a text. -/
def SpellsQuoted (text : String) (chars : List Char) : Prop :=
  ∃ body, SpellsText text.toList body ∧ chars = '"' :: (body ++ ['"'])

/-- What is written stands for entries, one or more, with commas between them. -/
inductive SpellsEntries {α : Type} (spells : α → List Char → Prop) :
    List α → List Char → Prop where
  /-- The last entry has blanks around it. -/
  | last {entry : α} {before chars after : List Char} (isBlank : IsBlank before)
      (spelled : spells entry chars) (isBlank' : IsBlank after) :
      SpellsEntries spells [entry] (before ++ chars ++ after)
  /-- So has any other one, and there is a comma after it. -/
  | cons {entry : α} {entries : List α} {before chars after rest : List Char}
      (isBlank : IsBlank before) (spelled : spells entry chars) (isBlank' : IsBlank after)
      (others : SpellsEntries spells entries rest) :
      SpellsEntries spells (entry :: entries) (before ++ chars ++ after ++ ',' :: rest)

/-- A field is its name in quotes, a colon and its value, with blanks around the colon. -/
inductive SpellsField (spells : JsonValue → List Char → Prop) :
    String × JsonValue → List Char → Prop where
  /-- These parts are the field. -/
  | mk {name : String} {value : JsonValue} {quoted before after chars : List Char}
      (named : SpellsQuoted name quoted) (isBlank : IsBlank before) (isBlank' : IsBlank after)
      (spelled : spells value chars) :
      SpellsField spells (name, value) (quoted ++ before ++ ':' :: (after ++ chars))

/-- What is written stands for a value. -/
inductive Spells : JsonValue → List Char → Prop where
  /-- The null value has a word. -/
  | null : Spells .null ['n', 'u', 'l', 'l']
  /-- So has the flag that is set. -/
  | set : Spells (.flag true) ['t', 'r', 'u', 'e']
  /-- And the one that is not. -/
  | unset : Spells (.flag false) ['f', 'a', 'l', 's', 'e']
  /-- A number is written in digits. -/
  | number {number : Nat} {chars : List Char} (digits : SpellsNumber number chars) :
      Spells (.number number) chars
  /-- A text is written in quotes. -/
  | text {text : String} {chars : List Char} (quoted : SpellsQuoted text chars) :
      Spells (.text text) chars
  /-- The empty list has only blanks between its brackets. -/
  | emptyList {blank : List Char} (isBlank : IsBlank blank) :
      Spells (.list []) ('[' :: (blank ++ [']']))
  /-- Any other list has its items between them. -/
  | list {items : List JsonValue} {chars : List Char} (inner : SpellsEntries Spells items chars) :
      Spells (.list items) ('[' :: (chars ++ [']']))
  /-- The empty record has only blanks between its braces. -/
  | emptyRecord {blank : List Char} (isBlank : IsBlank blank) :
      Spells (.record []) ('\x7b' :: (blank ++ ['\x7d']))
  /-- Any other record has its fields between them. -/
  | record {fields : List (String × JsonValue)} {chars : List Char}
      (inner : SpellsEntries (SpellsField Spells) fields chars) :
      Spells (.record fields) ('\x7b' :: (chars ++ ['\x7d']))

/-- A document is a value with blanks around it. -/
def IsDocument (value : JsonValue) (chars : List Char) : Prop :=
  ∃ before inner after, IsBlank before ∧ value.Spells inner ∧ IsBlank after ∧
    chars = before ++ inner ++ after

/-! ## Numbers and texts -/

/-- A number is written in its digits. -/
theorem spellsNumber_toString (number : Nat) : SpellsNumber number (toString number).toList := by
  rw [Nat.toString_eq_ofList_toDigits, String.toList_ofList]
  induction number using Nat.strongRecOn with
  | ind number ih =>
    by_cases small : number < 10
    · rw [Nat.toDigits_of_lt_base small]
      exact .digit small
    · have large : 10 ≤ number := Nat.le_of_not_lt small
      have front := ih (number / 10) (by omega)
      have whole := SpellsNumber.append front (by omega) (Nat.mod_lt number (by decide))
      rw [Nat.div_add_mod] at whole
      rw [Nat.toDigits_of_base_le (by decide) large]
      exact whole

/-- Four digits spell the code of a character below the first blank. -/
theorem spellsCode_fourDigits {number : Nat} (small : number < 65536) :
    SpellsCode number ('\\' :: 'u' :: fourDigits number) := by
  have digit : ∀ digit, IsHexDigit (digit % 16) (digit % 16).digitChar := fun digit =>
    ⟨Nat.mod_lt _ (by decide), .inl rfl⟩
  refine ⟨_, _, _, _, _, _, _, _, digit (number / 4096), digit (number / 256), digit (number / 16),
    digit number, ?_, rfl⟩
  omega

/-- An escaped character is written as it may be. -/
theorem SpellsText.escapeChar {text chars : List Char} (rest : SpellsText text chars) (c : Char) :
    SpellsText (c :: text) (escapeChar c ++ chars) := by
  unfold JsonValue.escapeChar
  split
  · exact .escape (by decide) rest
  · exact .escape (by decide) rest
  · exact .escape (by decide) rest
  · exact .escape (by decide) rest
  · exact .escape (by decide) rest
  · exact .escape (by decide) rest
  · exact .escape (by decide) rest
  next quote backslash _ _ _ _ _ =>
    by_cases control : c.toNat < 0x20
    · rw [if_pos control]
      exact .code (spellsCode_fourDigits (by omega)) rest
    · rw [if_neg control]
      exact .plain quote backslash (Nat.le_of_not_lt control) rest

/-- A text in quotes is written as it may be. -/
theorem spellsQuoted_quote (text : String) : SpellsQuoted text (quote text).toList := by
  have body : ∀ chars : List Char, SpellsText chars (chars.flatMap JsonValue.escapeChar) := by
    intro chars
    induction chars with
    | nil => exact .nil
    | cons c chars ih =>
      rw [List.flatMap_cons]
      exact ih.escapeChar c
  refine ⟨_, body text.toList, ?_⟩
  simp only [quote, String.toList_append, String.toList_ofList]
  rfl

/-! ## Lists and records -/

/-- Between entries of lists and records there may be nothing. -/
theorem isBlank_nil : IsBlank [] := nofun

/-- There may be a blank. -/
theorem isBlank_blank : IsBlank [' '] := by
  intro c member
  rw [List.mem_singleton.1 member]
  decide

/-- And there may be the start of a line. -/
theorem isBlank_newline (level : Nat) : IsBlank (newline level).toList := by
  intro c member
  simp only [newline, String.toList_append, String.toList_ofList, List.mem_append,
    List.mem_replicate] at member
  rcases member with line | indent
  · have same : c = '\n' := List.mem_singleton.1 line
    rw [same]
    decide
  · rw [indent.2]
    decide

/-- Entries are written with commas between them. -/
theorem spellsEntries_intercalate {α : Type} {spells : α → List Char → Prop} {entries : List α}
    {texts : List (List Char)} {blank after : List Char} (isBlank : IsBlank blank)
    (isBlank' : IsBlank after) (spelled : List.Forall₂ spells entries texts)
    (some : entries ≠ []) :
    SpellsEntries spells entries (blank ++ (',' :: blank).intercalate texts ++ after) := by
  induction spelled with
  | nil => exact absurd rfl some
  | @cons entry text entries texts first others ih =>
    cases others with
    | nil =>
      rw [List.intercalate_singleton]
      exact .last isBlank first isBlank'
    | @cons entry' text' entries texts second others =>
      have rest := ih (List.cons_ne_nil _ _)
      have whole := SpellsEntries.cons isBlank first isBlank_nil rest
      have same : blank ++ (',' :: blank).intercalate (text :: text' :: texts) ++ after =
          blank ++ text ++ [] ++ ',' :: (blank ++ (',' :: blank).intercalate (text' :: texts) ++
            after) := by
        simp [List.intercalate_cons_cons]
      rw [same]
      exact whole

/-! ## Both written forms -/

/-- Entries in lines of their own stand between their brackets. -/
theorem toList_enclose (level : Nat) (opening closing : String) {entries : List String}
    (some : entries ≠ []) :
    (enclose level opening closing entries).toList =
      opening.toList ++ (((newline (level + 1)).toList ++
        (',' :: (newline (level + 1)).toList).intercalate (entries.map String.toList) ++
          (newline level).toList) ++ closing.toList) := by
  cases entries with
  | nil => exact absurd rfl some
  | cons entry entries =>
    have separator : ("," ++ newline (level + 1)).toList = ',' :: (newline (level + 1)).toList := by
      rw [String.toList_append]
      rfl
    show (opening ++ newline (level + 1) ++
      ("," ++ newline (level + 1)).intercalate (entry :: entries) ++ newline level ++
        closing).toList = _
    simp only [String.toList_append, String.toList_intercalate, separator, List.append_assoc]

mutual

/-- A value that is laid out in lines stands for itself. -/
theorem spells_layout (level : Nat) (value : JsonValue) :
    Spells value (layout level value).toList := by
  cases value with
  | null =>
    rw [layout]
    exact .null
  | flag value =>
    rw [layout]
    cases value with
    | false => exact .unset
    | true => exact .set
  | number number =>
    rw [layout]
    exact .number (spellsNumber_toString number)
  | text text =>
    rw [layout]
    exact .text (spellsQuoted_quote text)
  | list items =>
    rw [layout]
    cases items with
    | nil =>
      rw [layoutItems, enclose, String.toList_append]
      exact .emptyList isBlank_nil
    | cons item items =>
      rw [toList_enclose level "[" "]" (by simp [layoutItems])]
      exact .list (spellsEntries_intercalate (isBlank_newline _) (isBlank_newline _)
        (spells_layoutItems (level + 1) (item :: items)) (List.cons_ne_nil _ _))
  | record fields =>
    rw [layout]
    cases fields with
    | nil =>
      rw [layoutFields, enclose, String.toList_append]
      exact .emptyRecord isBlank_nil
    | cons field fields =>
      rw [toList_enclose level "\x7b" "\x7d" (by simp [layoutFields])]
      exact .record (spellsEntries_intercalate (isBlank_newline _) (isBlank_newline _)
        (spells_layoutFields (level + 1) (field :: fields)) (List.cons_ne_nil _ _))

/-- So do the items of a list. -/
theorem spells_layoutItems (level : Nat) (items : List JsonValue) :
    List.Forall₂ Spells items ((layoutItems level items).map String.toList) := by
  cases items with
  | nil => exact .nil
  | cons item items => exact .cons (spells_layout level item) (spells_layoutItems level items)

/-- So do the fields of a record. -/
theorem spells_layoutFields (level : Nat) (fields : List (String × JsonValue)) :
    List.Forall₂ (SpellsField Spells) fields ((layoutFields level fields).map String.toList) := by
  cases fields with
  | nil => exact .nil
  | cons field fields =>
    obtain ⟨name, value⟩ := field
    have spelled := SpellsField.mk (spellsQuoted_quote name) isBlank_nil isBlank_blank
      (spells_layout level value)
    have same : (quote name).toList ++ [] ++ ':' :: ([' '] ++ (layout level value).toList) =
        (quote name ++ ": " ++ layout level value).toList := by
      simp only [String.toList_append, List.append_nil, List.append_assoc]
      rfl
    rw [same] at spelled
    rw [layoutFields]
    exact .cons spelled (spells_layoutFields level fields)

end

/-- Entries on one line stand between their brackets. -/
theorem toList_joined (opening closing : String) (entries : List String) :
    (opening ++ ",".intercalate entries ++ closing).toList =
      opening.toList ++
        (([] ++ [','].intercalate (entries.map String.toList) ++ []) ++ closing.toList) := by
  have separator : ",".toList = [','] := rfl
  simp only [String.toList_append, String.toList_intercalate, separator, List.nil_append,
    List.append_nil, List.append_assoc]

mutual

/-- A value that is written on one line stands for itself. -/
theorem spells_compact (value : JsonValue) : Spells value value.compact.toList := by
  cases value with
  | null =>
    rw [compact]
    exact .null
  | flag value =>
    rw [compact]
    cases value with
    | false => exact .unset
    | true => exact .set
  | number number =>
    rw [compact]
    exact .number (spellsNumber_toString number)
  | text text =>
    rw [compact]
    exact .text (spellsQuoted_quote text)
  | list items =>
    rw [compact, toList_joined]
    cases items with
    | nil =>
      rw [compactItems]
      exact .emptyList isBlank_nil
    | cons item items =>
      exact .list (spellsEntries_intercalate isBlank_nil isBlank_nil
        (spells_compactItems (item :: items)) (List.cons_ne_nil _ _))
  | record fields =>
    rw [compact, toList_joined]
    cases fields with
    | nil =>
      rw [compactFields]
      exact .emptyRecord isBlank_nil
    | cons field fields =>
      exact .record (spellsEntries_intercalate isBlank_nil isBlank_nil
        (spells_compactFields (field :: fields)) (List.cons_ne_nil _ _))

/-- So do the items of a list. -/
theorem spells_compactItems (items : List JsonValue) :
    List.Forall₂ Spells items ((compactItems items).map String.toList) := by
  cases items with
  | nil => exact .nil
  | cons item items =>
    rw [compactItems]
    exact .cons (spells_compact item) (spells_compactItems items)

/-- So do the fields of a record. -/
theorem spells_compactFields (fields : List (String × JsonValue)) :
    List.Forall₂ (SpellsField Spells) fields ((compactFields fields).map String.toList) := by
  cases fields with
  | nil => exact .nil
  | cons field fields =>
    obtain ⟨name, value⟩ := field
    have spelled := SpellsField.mk (spellsQuoted_quote name) isBlank_nil isBlank_nil
      (spells_compact value)
    have same : (quote name).toList ++ [] ++ ':' :: ([] ++ value.compact.toList) =
        (quote name ++ ":" ++ value.compact).toList := by
      simp only [String.toList_append, List.append_nil, List.nil_append, List.append_assoc]
      rfl
    rw [same] at spelled
    rw [compactFields]
    exact .cons spelled (spells_compactFields fields)

end

/-- A value is a document in lines. -/
theorem isDocument_pretty (value : JsonValue) : IsDocument value value.pretty.toList :=
  ⟨[], _, [], isBlank_nil, spells_layout 0 value, isBlank_nil, by rw [pretty]; simp⟩

/-- A value is a document on one line. -/
theorem isDocument_compact (value : JsonValue) : IsDocument value value.compact.toList :=
  ⟨[], _, [], isBlank_nil, spells_compact value, isBlank_nil, by simp⟩

/-! ## How a document starts -/

/-- A digit starts a number. -/
theorem SpellsNumber.start {number : Nat} {chars : List Char}
    (spells : SpellsNumber number chars) :
    ∃ c rest, chars = c :: rest ∧ c ∈ (List.range 10).map Nat.digitChar := by
  induction spells with
  | digit small => exact ⟨_, [], rfl, List.mem_map.2 ⟨_, List.mem_range.2 small, rfl⟩⟩
  | append front positive small ih =>
    obtain ⟨c, rest, rfl, known⟩ := ih
    exact ⟨c, _, List.cons_append, known⟩

/-- The characters that start values. -/
def starts : List Char :=
  ['n', 't', 'f', '"', '[', '\x7b'] ++ (List.range 10).map Nat.digitChar

/-- One of these characters starts a value. -/
theorem Spells.start {value : JsonValue} {chars : List Char} (spells : Spells value chars) :
    ∃ c rest, chars = c :: rest ∧ c ∈ starts := by
  cases spells with
  | null => exact ⟨_, _, rfl, by decide⟩
  | set => exact ⟨_, _, rfl, by decide⟩
  | unset => exact ⟨_, _, rfl, by decide⟩
  | number digits =>
    obtain ⟨c, rest, same, known⟩ := digits.start
    exact ⟨c, rest, same, List.mem_append_right _ known⟩
  | text quoted =>
    obtain ⟨body, -, same⟩ := quoted
    exact ⟨_, _, same, by decide⟩
  | emptyList isBlank => exact ⟨_, _, rfl, by decide⟩
  | list inner => exact ⟨_, _, rfl, by decide⟩
  | emptyRecord isBlank => exact ⟨_, _, rfl, by decide⟩
  | record inner => exact ⟨_, _, rfl, by decide⟩

/-- A blank or a value starts entries that are values. -/
theorem SpellsEntries.start {items : List JsonValue} {chars : List Char}
    (spells : SpellsEntries Spells items chars) :
    ∃ c rest, chars = c :: rest ∧ (c ∈ [' ', '\t', '\n', '\r'] ∨ c ∈ starts) := by
  have first : ∀ {before inner after : List Char} {item : JsonValue}, IsBlank before →
      Spells item inner → ∃ c rest, before ++ inner ++ after = c :: rest ∧
        (c ∈ [' ', '\t', '\n', '\r'] ∨ c ∈ starts) := by
    intro before inner after item isBlank spelled
    cases before with
    | nil =>
      obtain ⟨c, rest, rfl, known⟩ := spelled.start
      exact ⟨c, _, rfl, .inr known⟩
    | cons c before => exact ⟨c, _, rfl, .inl (isBlank c List.mem_cons_self)⟩
  cases spells with
  | last isBlank spelled isBlank' => exact first isBlank spelled
  | cons isBlank spelled isBlank' others =>
    obtain ⟨c, rest, same, known⟩ := first isBlank spelled
    exact ⟨c, _, by rw [same, List.cons_append], known⟩

/-- After a bracket at the start of a value there is a blank, the start of a value or the closing
bracket. -/
theorem Spells.second {value : JsonValue} {rest : List Char}
    (spells : Spells value ('[' :: rest)) :
    ∃ c others, rest = c :: others ∧
      (c ∈ [' ', '\t', '\n', '\r'] ∨ c ∈ starts ∨ c = ']') := by
  generalize whole : '[' :: rest = chars at spells
  cases spells with
  | null => cases whole
  | set => cases whole
  | unset => cases whole
  | number digits =>
    obtain ⟨c, _, same, known⟩ := digits.start
    cases whole.trans same
    exact absurd known (by decide)
  | text quoted =>
    obtain ⟨body, -, same⟩ := quoted
    cases whole.trans same
  | @emptyList blank isBlank =>
    cases whole
    cases blank with
    | nil => exact ⟨_, _, rfl, .inr (.inr rfl)⟩
    | cons c blank => exact ⟨c, _, rfl, .inl (isBlank c List.mem_cons_self)⟩
  | list inner =>
    cases whole
    obtain ⟨c, others, same, known⟩ := inner.start
    refine ⟨c, others ++ [']'], by rw [same, List.cons_append], ?_⟩
    rcases known with blank | start
    · exact .inl blank
    · exact .inr (.inl start)
  | emptyRecord isBlank => cases whole
  | record inner => cases whole

/-- A document that starts with a bracket goes on as a list. -/
theorem IsDocument.second {value : JsonValue} {rest : List Char}
    (document : IsDocument value ('[' :: rest)) :
    ∃ c others, rest = c :: others ∧
      (c ∈ [' ', '\t', '\n', '\r'] ∨ c ∈ starts ∨ c = ']') := by
  obtain ⟨before, inner, after, isBlank, spelled, -, same⟩ := document
  cases before with
  | cons c before =>
    cases same
    exact absurd (isBlank '[' List.mem_cons_self) (by decide)
  | nil =>
    obtain ⟨c, others, rfl, -⟩ := spelled.start
    cases same
    obtain ⟨c, rest, rfl, known⟩ := spelled.second
    exact ⟨c, _, rfl, known⟩

end JsonValue

end Conformance
