import Conformance.Proofs.Snafu.Lexemes

/-!
# Strings and their lines

The scan behind a quote finds the only piece that closes the string. If there is none, it has run
over the line: up to the first carriage return or line feed that no backslash escapes, or up to the
end of the text.
-/

namespace Conformance.Snafu

variable {c d : Char} {text rest piece before : List Char}

/-! ## Lines -/

/-- The character behind some others is escaped: the last of them is a backslash that is not escaped
itself. -/
def escapes (before : List Char) : Bool :=
  before.foldl (fun escaped c => c == '\\' && !escaped) false

/-- A plain character escapes nothing. -/
theorem escapes_plain (noEscape : c ≠ '\\') : escapes (c :: before) = escapes before := by
  rw [escapes, List.foldl_cons, beq_false_of_ne noEscape]
  rfl

/-- An escaped character escapes nothing. -/
theorem escapes_pair : escapes ('\\' :: d :: before) = escapes before := by
  rw [escapes, List.foldl_cons, List.foldl_cons, beq_self_eq_true, Bool.not_false, Bool.and_self,
    Bool.not_true, Bool.and_false]
  rfl

/-- A piece of a text goes up to the first end of a line that is not escaped, or to the end of the
text. -/
structure FillsLine (text piece : List Char) : Prop where
  /-- The piece is at the front of the text. -/
  front : piece <+: text
  /-- The ends of lines in it are escaped. -/
  inside : ∀ before c, before ++ [c] <+: piece → c ∈ lineEnds → escapes before = true
  /-- Behind it nothing is left, or a line ends. -/
  stop : piece = text ∨ ∃ c, piece ++ [c] <+: text ∧ c ∈ lineEnds ∧ escapes piece = false

namespace FillsLine

/-- The text itself, where no line ends in it. -/
theorem whole (noEnd : ∀ c ∈ text, c ∉ lineEnds) : FillsLine text text where
  front := List.prefix_rfl
  inside _ c within ends :=
    absurd ends (noEnd c (within.subset (List.mem_append_right _ List.mem_cons_self)))
  stop := .inl rfl

/-- Nothing, where a line ends at once. -/
theorem nothing (ends : c ∈ lineEnds) : FillsLine (c :: rest) [] where
  front := List.nil_prefix
  inside before _ within _ := absurd (List.prefix_nil.1 within) (List.append_ne_nil_of_right_ne_nil
    before (List.cons_ne_nil _ _))
  stop := .inr ⟨c, (List.prefix_cons_inj c).2 List.nil_prefix, ends, rfl⟩

/-- A character that is neither a backslash nor the end of a line belongs to the line. -/
theorem plain (fills : FillsLine text piece) (noEscape : c ≠ '\\') (noEnd : c ∉ lineEnds) :
    FillsLine (c :: text) (c :: piece) where
  front := (List.prefix_cons_inj c).2 fills.front
  inside before e within ends := by
    cases before with
    | nil =>
      obtain ⟨rfl, -⟩ := List.cons_prefix_cons.1 within
      exact absurd ends noEnd
    | cons b before =>
      obtain ⟨rfl, further⟩ := List.cons_prefix_cons.1 within
      rw [escapes_plain noEscape]
      exact fills.inside before e further ends
  stop := by
    rcases fills.stop with rfl | ⟨e, within, ends, free⟩
    · exact .inl rfl
    · exact .inr ⟨e, (List.prefix_cons_inj c).2 within, ends, (escapes_plain noEscape).trans free⟩

/-- A backslash and any character belong to the line. -/
theorem pair (fills : FillsLine text piece) :
    FillsLine ('\\' :: d :: text) ('\\' :: d :: piece) where
  front := (List.prefix_cons_inj _).2 ((List.prefix_cons_inj d).2 fills.front)
  inside before e within ends := by
    match before with
    | [] =>
      obtain rfl : e = '\\' := (List.cons_prefix_cons.1 within).1
      exact absurd ends (by decide)
    | [b] =>
      obtain rfl : b = '\\' := (List.cons_prefix_cons.1 within).1
      rfl
    | b :: b' :: before =>
      obtain ⟨rfl, further⟩ := List.cons_prefix_cons.1 within
      obtain ⟨-, further⟩ := List.cons_prefix_cons.1 further
      rw [escapes_pair]
      exact fills.inside before e further ends
  stop := by
    rcases fills.stop with rfl | ⟨e, within, ends, free⟩
    · exact .inl rfl
    · exact .inr ⟨e, (List.prefix_cons_inj _).2 ((List.prefix_cons_inj d).2 within), ends,
        escapes_pair.trans free⟩

end FillsLine

/-! ## Strings -/

/-- What closes a string, by its first character. -/
theorem cons_mem_closing :
    c :: rest ∈ closing ↔
      c = '"' ∧ rest = [] ∨
        (c = '\\' ∧ ∃ d tail, rest = d :: tail ∧ tail ∈ closing) ∨
          c ∉ ['"', '\\', '\r', '\n'] ∧ rest ∈ closing := by
  rw [mem_closing]
  refine or_congr List.cons_eq_cons (or_congr ?_ ?_)
  · constructor
    · rintro ⟨d, tail, same, closes⟩
      cases same
      exact ⟨rfl, d, tail, rfl, closes⟩
    · rintro ⟨rfl, d, tail, rfl, closes⟩
      exact ⟨d, tail, rfl, closes⟩
  · constructor
    · rintro ⟨d, tail, same, plain, closes⟩
      cases same
      exact ⟨plain, closes⟩
    · rintro ⟨plain, closes⟩
      exact ⟨c, rest, rfl, plain, closes⟩

/-- A string is not closed by nothing. -/
theorem nil_not_mem_closing : [] ∉ closing := by
  intro closes
  rcases mem_closing.1 closes with same | ⟨_, _, same, _⟩ | ⟨_, _, same, _⟩ <;> cases same

/-- A piece that is not empty starts with the first character. -/
theorem exists_tail {word : List Char} (front : word <+: c :: rest) (nonempty : word ≠ []) :
    ∃ tail, word = c :: tail ∧ tail <+: rest :=
  (List.prefix_cons_iff.1 front).resolve_left nonempty

/-- The first quote closes a string. -/
theorem closing_quote {word : List Char} (front : word <+: '"' :: rest) (closes : word ∈ closing) :
    word = ['"'] := by
  obtain ⟨tail, rfl, -⟩ := exists_tail front fun empty => nil_not_mem_closing (empty ▸ closes)
  rcases cons_mem_closing.1 closes with ⟨-, rfl⟩ | ⟨wrong, -⟩ | ⟨plain, -⟩
  · rfl
  · exact absurd wrong (by decide)
  · exact absurd plain (by decide)

/-- A backslash takes the next character of a string with it. -/
theorem closing_pair {word : List Char} (front : word <+: '\\' :: rest) (closes : word ∈ closing) :
    ∃ d tail, word = '\\' :: d :: tail ∧ d :: tail <+: rest ∧ tail ∈ closing := by
  obtain ⟨tail, rfl, further⟩ := exists_tail front fun empty => nil_not_mem_closing (empty ▸ closes)
  rcases cons_mem_closing.1 closes with ⟨wrong, -⟩ | ⟨-, d, behind, rfl, ends⟩ | ⟨plain, -⟩
  · exact absurd wrong (by decide)
  · exact ⟨d, behind, rfl, further, ends⟩
  · exact absurd plain (by decide)

/-- Any other character of a string does not end the line. -/
theorem closing_plain {word : List Char} (front : word <+: c :: rest) (closes : word ∈ closing)
    (noQuote : c ≠ '"') (noEscape : c ≠ '\\') :
    ∃ tail, word = c :: tail ∧ tail <+: rest ∧ tail ∈ closing ∧ c ∉ lineEnds := by
  obtain ⟨tail, rfl, further⟩ := exists_tail front fun empty => nil_not_mem_closing (empty ▸ closes)
  rcases cons_mem_closing.1 closes with ⟨quote, -⟩ | ⟨backslash, -⟩ | ⟨plain, closes⟩
  · exact absurd quote noQuote
  · exact absurd backslash noEscape
  · refine ⟨tail, rfl, further, closes, fun ends => plain ?_⟩
    exact List.mem_cons_of_mem _ (List.mem_cons_of_mem _ ends)

/-- What the scan behind a quote finds: the end of the string, or that no quote closes it. -/
inductive Scans (text : List Char) : Kind → List Char → Prop
  /-- The only piece that closes the string. -/
  | closed {body : List Char} (front : body <+: text) (closes : body ∈ closing)
      (only : ∀ word, word <+: text → word ∈ closing → word = body) : Scans text stringKind body
  /-- The line, where nothing closes the string. -/
  | unclosed {body : List Char} (fills : FillsLine text body)
      (never : ∀ word, word <+: text → word ∉ closing) : Scans text .invalid body

/-- An escape goes on with what is behind it. -/
theorem Scans.pair {kind : Kind} (scans : Scans rest kind piece) :
    Scans ('\\' :: d :: rest) kind ('\\' :: d :: piece) := by
  cases scans with
  | closed front closes only =>
    refine .closed ((List.prefix_cons_inj _).2 ((List.prefix_cons_inj d).2 front))
      (cons_mem_closing.2 (.inr (.inl ⟨rfl, d, piece, rfl, closes⟩))) fun word within again => ?_
    obtain ⟨e, tail, rfl, further, ends⟩ := closing_pair within again
    obtain ⟨rfl, behind⟩ := List.cons_prefix_cons.1 further
    rw [only tail behind ends]
  | unclosed fills never =>
    refine .unclosed fills.pair fun word within again => ?_
    obtain ⟨e, tail, rfl, further, ends⟩ := closing_pair within again
    exact never tail (List.cons_prefix_cons.1 further).2 ends

/-- A plain character goes on with what is behind it. -/
theorem Scans.plain {kind : Kind} (scans : Scans rest kind piece) (noQuote : c ≠ '"')
    (noEscape : c ≠ '\\') (noEnd : c ∉ lineEnds) : Scans (c :: rest) kind (c :: piece) := by
  cases scans with
  | closed front closes only =>
    have plain : c ∉ ['"', '\\', '\r', '\n'] := by
      simpa [lineEnds, noQuote, noEscape] using noEnd
    refine .closed ((List.prefix_cons_inj c).2 front)
      (cons_mem_closing.2 (.inr (.inr ⟨plain, closes⟩))) fun word within again => ?_
    obtain ⟨tail, rfl, further, ends, -⟩ := closing_plain within again noQuote noEscape
    rw [only tail further ends]
  | unclosed fills never =>
    refine .unclosed (fills.plain noEscape noEnd) fun word within again => ?_
    obtain ⟨tail, rfl, further, ends, -⟩ := closing_plain within again noQuote noEscape
    exact never tail further ends

/-- The scanner ends lines as the rules do. -/
theorem endsLine_iff : endsLine c = true ↔ c ∈ lineEnds := by
  simp [endsLine, lineEnds]

/-- The scan behind a quote finds the end of the string, or that it has none. -/
theorem scanString_scans (taken : Nat) (text : List Char) :
    ∃ kind body, scanString taken text = (kind, taken + body.length) ∧ Scans text kind body := by
  fun_induction scanString taken text with
  | case1 taken =>
    refine ⟨_, [], rfl, .unclosed (.whole (by simp)) fun word front closes => ?_⟩
    exact nil_not_mem_closing (List.prefix_nil.1 front ▸ closes)
  | case2 taken rest =>
    have closes : ['"'] ∈ closing := cons_mem_closing.2 (.inl ⟨rfl, rfl⟩)
    exact ⟨_, ['"'], rfl, .closed ((List.prefix_cons_inj _).2 List.nil_prefix) closes
      fun word => closing_quote⟩
  | case3 taken =>
    refine ⟨_, ['\\'], rfl, .unclosed (.whole (by simp [lineEnds])) fun word front closes => ?_⟩
    obtain ⟨d, tail, -, further, -⟩ := closing_pair front closes
    exact List.cons_ne_nil d tail (List.prefix_nil.1 further)
  | case4 taken d rest ih =>
    obtain ⟨kind, body, found, scans⟩ := ih
    refine ⟨kind, '\\' :: d :: body, ?_, scans.pair⟩
    rw [found, List.length_cons, List.length_cons, Nat.add_assoc, Nat.add_comm 2]
  | case5 taken c rest noQuote lone noPair ends =>
    have ended : c ∈ lineEnds := endsLine_iff.1 ends
    have noEscape : c ≠ '\\' := by
      rintro rfl
      exact absurd ended (by decide)
    refine ⟨_, [], rfl, .unclosed (.nothing ended) fun word front closes => ?_⟩
    obtain ⟨tail, -, -, -, noEnd⟩ := closing_plain front closes noQuote noEscape
    exact noEnd ended
  | case6 taken c rest noQuote lone noPair inside ih =>
    obtain ⟨kind, body, found, scans⟩ := ih
    have noEscape : c ≠ '\\' := fun same => by
      cases rest with
      | nil => exact lone same rfl
      | cons d rest => exact noPair d rest same rfl
    have noEnd : c ∉ lineEnds := mt endsLine_iff.2 inside
    refine ⟨kind, c :: body, ?_, scans.plain noQuote noEscape noEnd⟩
    rw [found, List.length_cons, Nat.add_assoc, Nat.add_comm 1]

end Conformance.Snafu
