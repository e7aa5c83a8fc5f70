import Conformance.Grammar.Basic
import Conformance.Text.Blank

/-!
# The Word language

```text
sentence : WORD* ';' EOF ;
clause   : WORD ;
```

A word is a run of lower-case letters and every blank is a hidden token of its own. Besides the
sentence and the clause, which only the parser itself may call, the table offers a rule with an
argument, a rule that always fails and a rule that always breaks off.
-/

namespace Conformance.Word

open Recognizer

/-- A word. -/
abbrev wordKind : Kind := 1
/-- The sign `;`. -/
abbrev semicolonKind : Kind := 2
/-- A single blank. -/
abbrev blankKind : Kind := 3

/-- The display names of the kinds from zero on. -/
def vocabulary : List String := ["<INVALID>", "WORD", "';'", "WS"]

/-- The kind of the lexeme that starts with a character, and the number of its further
characters. -/
def scan (first : Char) (rest : List Char) : Kind × Nat :=
  if first.isLower then (wordKind, (rest.takeWhile Char.isLower).length)
  else if first == ';' then (semicolonKind, 0)
  else if Text.isBlank first then (blankKind, 0)
  else (.invalid, 0)

/-- The lexical grammar of Word. -/
def lexical : LexicalGrammar where
  scan
  isHidden kind := kind == blankKind

/-- Words up to a token that is none, at most as many as `turns`. -/
def words : Nat → Rule Unit
  | 0 => pure ()
  | turns + 1 => do
    if (← peek) = wordKind then
      let _ ← consume
      words turns

/-- A whole sentence. -/
def sentence : Rule Unit := do
  words ((← get).outstanding + 1)
  let _ ← matchKind semicolonKind
  let _ ← matchKind .eof

/-- The rule of a name. -/
def rule (name : String) : Rule Unit :=
  match name with
  | "sentence" => sentence
  | "clause" => do let _ ← matchKind wordKind
  | "fail" => throw (.internal "fail always fails")
  | "crash" => throw (.crashed (.message "crash always panics"))
  | other => throw (.internal ("no rule '" ++ other ++ "'"))

/-- The description of the rules. -/
def table : List RuleEntry :=
  [⟨"sentence", .everyone, 0⟩, ⟨"clause", .internal, 0⟩, ⟨"phrase", .everyone, 1⟩,
    ⟨"fail", .everyone, 0⟩, ⟨"crash", .everyone, 0⟩]

/-- The Word language. -/
def grammar : Grammar := ⟨lexical, vocabulary, table, rule⟩

end Conformance.Word
