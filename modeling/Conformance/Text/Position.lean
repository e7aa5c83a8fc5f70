/-!
# Positions in a text

Lines count from one and columns from zero, in characters. Only a line feed ends a line, so the
position after a text is one line for each line feed in it and one column for each character
after the last of them.
-/

namespace Conformance

/-- A place between two characters of a text. -/
structure Position where
  /-- The line, from one. -/
  line : Nat
  /-- The characters before this place on its line. -/
  column : Nat
  deriving Repr, DecidableEq, Inhabited

namespace Position

/-- The place before the first character. -/
def start : Position := ⟨1, 0⟩

/-- The place after one more character. -/
def advance (position : Position) (c : Char) : Position :=
  if c = '\n' then ⟨position.line + 1, 0⟩ else ⟨position.line, position.column + 1⟩

/-- The place after further characters. -/
def after (position : Position) (chars : List Char) : Position :=
  chars.foldl advance position

/-- No characters leave the place as it is. -/
@[simp] theorem after_nil (position : Position) : position.after [] = position := rfl

/-- Characters are passed one after the other. -/
@[simp] theorem after_cons (position : Position) (c : Char) (chars : List Char) :
    position.after (c :: chars) = (position.advance c).after chars := rfl

/-- The place after two texts is the one after the second, from the place after the first. -/
theorem after_append (position : Position) (first second : List Char) :
    position.after (first ++ second) = (position.after first).after second := by
  simp [after]

/-- From the start of a text, the line counts the line feeds and the column the characters behind
the last of them. -/
theorem start_after (chars : List Char) :
    start.after chars =
      ⟨1 + chars.count '\n', (chars.reverse.takeWhile (· != '\n')).length⟩ := by
  obtain ⟨backwards, rfl⟩ : ∃ backwards, chars = backwards.reverse :=
    ⟨chars.reverse, chars.reverse_reverse.symm⟩
  induction backwards with
  | nil => rfl
  | cons c backwards ih =>
    rw [List.reverse_cons, after_append, ih, after_cons, after_nil, advance]
    by_cases feed : c = '\n'
    · simp [feed, Nat.add_assoc]
    · simp [feed]

end Position

end Conformance
