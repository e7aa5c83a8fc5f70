import Conformance.Grammar.Word
import Conformance.Proofs.Snafu.LongestMatch

/-!
# Lexing in both languages

The lexers of Snafu and of Word hand out their texts without a gap, with exact positions, and then
the end token for ever.
-/

namespace Conformance.Grammar

/-- No lexeme of Snafu ends the input. -/
theorem snafu_scan_ne_eof (c : Char) (rest : List Char) : (Snafu.scan c rest).1 ≠ .eof :=
  (Snafu.scan_lexes c rest).kind_ne_eof

/-- No lexeme of Word ends the input. -/
theorem word_scan_ne_eof (c : Char) (rest : List Char) : (Word.scan c rest).1 ≠ .eof := by
  have apart : Word.wordKind ≠ .eof ∧ Word.semicolonKind ≠ .eof ∧ Word.blankKind ≠ .eof ∧
      Kind.invalid ≠ .eof := by decide
  unfold Word.scan
  by_cases letter : c.isLower = true
  · rw [if_pos letter]
    exact apart.1
  by_cases semicolon : (c == ';') = true
  · rw [if_neg letter, if_pos semicolon]
    exact apart.2.1
  by_cases blank : Text.isBlank c = true
  · rw [if_neg letter, if_neg semicolon, if_pos blank]
    exact apart.2.2.1
  · rw [if_neg letter, if_neg semicolon, if_neg blank]
    exact apart.2.2.2

/-- Before its first end token a lexer of Snafu or Word hands out pieces that are not empty and make
up its text, so there are no more of them than characters. From then on it hands out one end token
for ever. Up to that one, each token has the line that the line feeds before it count and the column
that the characters behind the last of them count. -/
theorem lexer_spells {lexical : LexicalGrammar}
    (known : lexical = Snafu.lexical ∨ lexical = Word.lexical) (name text : String) :
    let source := TokenSource.lexer lexical (CharStream.ofText name text)
    ∃ count ≤ text.length,
      (∀ call < count, (source.answer call).isEof = false ∧ (source.answer call).text ≠ "") ∧
      source.spelling count = text.toList ∧
      (∃ last : Token, last.isEof = true ∧ ∀ call, count ≤ call → source.answer call = last) ∧
      ∀ call ≤ count,
        (source.answer call).position.line = 1 + (source.spelling call).count '\n' ∧
        (source.answer call).position.column =
          ((source.spelling call).reverse.takeWhile (· != '\n')).length := by
  intro source
  have endless : ∀ c rest, (lexical.scan c rest).1 ≠ .eof := by
    rcases known with rfl | rfl
    · exact snafu_scan_ne_eof
    · exact word_scan_ne_eof
  obtain ⟨count, spells⟩ := TokenSource.exists_spells endless (CharStream.ofText name text)
  have bound : count ≤ text.length := String.length_toList ▸ spells.bound
  refine ⟨count, bound, spells.pieces, spells.whole, ⟨_, Token.isEof_eof _, spells.ended⟩, ?_⟩
  intro call first
  have placed : (source.answer call).position = Position.start.after (source.spelling call) :=
    spells.placed call first
  rw [placed, Position.start_after]
  exact ⟨rfl, rfl⟩

/-- A text of three lines, with a string over the last two of them, is cut into five pieces. -/
theorem lexer_spells_lines :
    let source := TokenSource.lexer Snafu.lexical (CharStream.ofText "script" "x\n\"a\\\nb\" y")
    source.spelling 5 = "x\n\"a\\\nb\" y".toList ∧
      ∀ call ≤ 5,
        (source.answer call).position.line = 1 + (source.spelling call).count '\n' ∧
        (source.answer call).position.column =
          ((source.spelling call).reverse.takeWhile (· != '\n')).length := by
  intro source
  obtain ⟨count, -, pieces, whole, ⟨last, ends, ended⟩, placed⟩ :=
    lexer_spells (.inl rfl) "script" "x\n\"a\\\nb\" y"
  have fourth : (source.answer 4).isEof = false := by decide
  have fifth : (source.answer 5).isEof = true := by decide
  have most : count ≤ 5 := by
    by_contra more
    have piece := (pieces 5 (by omega)).1
    exact absurd (piece.symm.trans fifth) (by decide)
  have least : 5 ≤ count := by
    by_contra fewer
    have same := ended 4 (by omega)
    exact absurd (fourth.symm.trans (same ▸ ends)) (by decide)
  obtain rfl : count = 5 := by omega
  exact ⟨whole, placed⟩

end Conformance.Grammar
