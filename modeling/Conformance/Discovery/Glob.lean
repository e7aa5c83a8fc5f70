/-!
# Patterns of paths

A pattern is matched against a whole path whose parts are separated by slashes. A question mark
stands for a character, brackets for one of those listed or, after an exclamation mark, for any
other one, and a star for a run of characters; none of them matches a slash. Two stars must be a
whole part of the pattern: they stand for any number of whole parts. There is no escape.

What a token can match is said by the texts that it may leave: `remainders`. A path matches when
the tokens can leave nothing, one after the other: `matchesTokens`. Trying all of that out can take
long, so the answer is read off a `table`, which has an entry for each suffix of the path and grows
by a token at a time. Both give the same answer.
-/

namespace Conformance

namespace Glob

/-- The characters between two others, both included, or one character. -/
inductive CharRange where
  /-- One character. -/
  | single (c : Char)
  /-- All characters from the first to the last. -/
  | between (first last : Char)
  deriving Repr, DecidableEq, Inhabited

/-- A character is in a range. -/
def CharRange.contains (range : CharRange) (c : Char) : Bool :=
  match range with
  | .single other => c == other
  | .between first last => first ≤ c && c ≤ last

/-- A part of a pattern. -/
inductive Token where
  /-- This character. -/
  | literal (c : Char)
  /-- Any character. -/
  | anyChar
  /-- A character in one of the ranges. -/
  | within (ranges : List CharRange)
  /-- A character in none of the ranges. -/
  | except (ranges : List CharRange)
  /-- A run of characters within a part of the path. -/
  | run
  /-- Whole parts of the path. -/
  | parts
  deriving Repr, DecidableEq, Inhabited

/-- Why a text is no pattern. -/
inductive Error where
  /-- There are more than two stars in a row. -/
  | tooManyStars
  /-- Two stars are not a whole part. -/
  | partialParts
  /-- A bracket is not closed. -/
  | openRange
  deriving Repr, DecidableEq, Inhabited

/-- The text of the error. -/
def Error.message : Error → String
  | .tooManyStars => "wildcards are either regular `*` or recursive `**`"
  | .partialParts => "recursive wildcards must form a single path component"
  | .openRange => "invalid range pattern"

/-! ## Reading a pattern -/

/-- The ranges between two brackets. -/
def ranges : List Char → List CharRange
  | first :: '-' :: last :: rest => .between first last :: ranges rest
  | c :: rest => .single c :: ranges rest
  | [] => []

/-- The characters up to a closing bracket and those after it. The first character never closes. -/
def bracketed? : List Char → Option (List Char × List Char)
  | [] => none
  | first :: rest =>
    match rest.dropWhile (· != ']') with
    | [] => none
    | _ :: after => some (first :: rest.takeWhile (· != ']'), after)

/-- What follows a closing bracket is shorter than what follows the opening one. -/
theorem length_of_bracketed? {chars listed after : List Char}
    (found : bracketed? chars = some (listed, after)) : after.length < chars.length := by
  match chars with
  | [] => cases found
  | first :: rest =>
    have bound := (List.dropWhile_suffix (· != ']') : rest.dropWhile (· != ']') <:+ rest).length_le
    simp only [bracketed?] at found
    split at found
    · cases found
    · next dropped =>
      cases found
      simp only [dropped, List.length_cons] at bound ⊢
      omega

/-- The tokens of a pattern. `atStart` says that a part starts here. -/
def readTokens (atStart : Bool) (chars : List Char) : Except Error (List Token) :=
  match chars with
  | [] => .ok []
  | '*' :: '*' :: '*' :: _ => .error .tooManyStars
  | '*' :: '*' :: '/' :: rest =>
    if atStart then (readTokens true rest).map (.parts :: ·) else .error .partialParts
  | ['*', '*'] => if atStart then .ok [.parts] else .error .partialParts
  | '*' :: '*' :: _ => .error .partialParts
  | '*' :: rest => (readTokens false rest).map (.run :: ·)
  | '?' :: rest => (readTokens false rest).map (.anyChar :: ·)
  | '[' :: '!' :: rest =>
    match _found : bracketed? rest with
    | some (listed, after) => (readTokens false after).map (.except (ranges listed) :: ·)
    | none => .error .openRange
  | '[' :: rest =>
    match _found : bracketed? rest with
    | some (listed, after) => (readTokens false after).map (.within (ranges listed) :: ·)
    | none => .error .openRange
  | c :: rest => (readTokens (c == '/') rest).map (.literal c :: ·)
termination_by chars.length
decreasing_by
  all_goals simp_wf
  all_goals first
    | omega
    | have := length_of_bracketed? _found
      omega

/-! ## Matching -/

/-- The texts after each slash of a text. -/
def afterSlashes : List Char → List (List Char)
  | [] => []
  | c :: rest => if c = '/' then rest :: afterSlashes rest else afterSlashes rest

/-- A text without any number of characters from its front, up to the first slash. -/
def withoutRun : List Char → List (List Char)
  | [] => [[]]
  | c :: rest => (c :: rest) :: if c = '/' then [] else withoutRun rest

/-- A text without its first character, if that is fit. -/
def withoutFirst (fit : Char → Bool) : List Char → List (List Char)
  | [] => []
  | c :: rest => if fit c then [rest] else []

/-- A character that a token for one character matches. -/
def Token.fits : Token → Char → Bool
  | .literal expected, c => c == expected
  | .anyChar, c => c != '/'
  | .within ranges, c => c != '/' && ranges.any (·.contains c)
  | .except ranges, c => c != '/' && !ranges.any (·.contains c)
  | .run, _ => false
  | .parts, _ => false

/-- What may be left of a text when a token has matched its front. -/
def Token.remainders (token : Token) (text : List Char) : List (List Char) :=
  match token with
  | .run => withoutRun text
  | .parts => text :: (afterSlashes text ++ [[]])
  | token => withoutFirst token.fits text

/-- The tokens match a whole text. -/
def matchesTokens : List Token → List Char → Bool
  | [], text => text.isEmpty
  | token :: tokens, text => (token.remainders text).any (matchesTokens tokens)

/-! ## The table of a match -/

/-- A text and everything left of it when characters are taken from its front. -/
def suffixes : List Char → List (List Char)
  | [] => [[]]
  | c :: rest => (c :: rest) :: suffixes rest

/-- The table with a token for one character before the others. -/
def extendFirst (fit : Char → Bool) : List Char → List Bool → List Bool
  | c :: rest, _ :: table => (fit c && table.headD false) :: extendFirst fit rest table
  | _, _ => [false]

/-- The table with a run before the tokens. -/
def extendRun : List Char → List Bool → List Bool
  | c :: rest, here :: table =>
    let later := extendRun rest table
    (here || (c != '/' && later.headD false)) :: later
  | _, table => table

/-- For each suffix, whether the tokens match after one of its slashes or at its end. -/
def laterParts : List Char → List Bool → List Bool
  | c :: rest, _ :: table =>
    let later := laterParts rest table
    ((c == '/' && table.headD false) || later.headD false) :: later
  | _, table => table

/-- The table with a token before the others. -/
def Token.extend (token : Token) (text : List Char) (table : List Bool) : List Bool :=
  match token with
  | .run => extendRun text table
  | .parts => List.zipWith (· || ·) table (laterParts text table)
  | token => extendFirst token.fits text table

/-- For each suffix of a text, whether the tokens match it. -/
def table (tokens : List Token) (text : List Char) : List Bool :=
  match tokens with
  | [] => (suffixes text).map List.isEmpty
  | token :: tokens => token.extend text (table tokens text)

/-- A text is its own first suffix. -/
theorem headD_map_suffixes (f : List Char → Bool) (text : List Char) :
    ((suffixes text).map f).headD false = f text := by
  cases text <;> rfl

/-- Extending by one character tells, for each suffix, whether what that character leaves of it is
matched. -/
theorem extendFirst_map (fit : Char → Bool) (f : List Char → Bool) (text : List Char) :
    extendFirst fit text ((suffixes text).map f) =
      (suffixes text).map fun text => (withoutFirst fit text).any f := by
  induction text with
  | nil => rfl
  | cons c rest ih =>
    have head := headD_map_suffixes f rest
    simp only [suffixes, List.map_cons, extendFirst, ih, head, withoutFirst]
    cases fit c <;> simp

/-- Extending by a run tells, for each suffix, whether something that the run leaves of it is
matched. -/
theorem extendRun_map (f : List Char → Bool) (text : List Char) :
    extendRun text ((suffixes text).map f) =
      (suffixes text).map fun text => (withoutRun text).any f := by
  induction text with
  | nil => simp [extendRun, suffixes, withoutRun]
  | cons c rest ih =>
    have head := headD_map_suffixes (fun text => (withoutRun text).any f) rest
    simp only [suffixes, List.map_cons, extendRun, ih, head, withoutRun, List.any_cons]
    by_cases slash : c = '/'
    · simp [slash]
    · have fit : (c != '/') = true := bne_iff_ne.mpr slash
      simp [slash, fit]

/-- Extending by parts tells, for each suffix, whether something behind one of its slashes, or
nothing at all, is matched. -/
theorem laterParts_map (f : List Char → Bool) (text : List Char) :
    laterParts text ((suffixes text).map f) =
      (suffixes text).map fun text => (afterSlashes text ++ [[]]).any f := by
  induction text with
  | nil => simp [laterParts, suffixes, afterSlashes]
  | cons c rest ih =>
    have here := headD_map_suffixes f rest
    have head := headD_map_suffixes (fun text => (afterSlashes text ++ [[]]).any f) rest
    simp only [suffixes, List.map_cons, laterParts, ih, here, head, afterSlashes]
    by_cases slash : c = '/' <;> simp [slash]

/-- The extended table says what the token may leave for the others. -/
theorem extend_map (token : Token) (f : List Char → Bool) (text : List Char) :
    token.extend text ((suffixes text).map f) =
      (suffixes text).map fun text => (token.remainders text).any f := by
  cases token with
  | run => exact extendRun_map f text
  | parts =>
    simp only [Token.extend, Token.remainders, laterParts_map, List.any_cons, List.zipWith_map,
      List.zipWith_self]
  | literal expected => exact extendFirst_map _ f text
  | anyChar => exact extendFirst_map _ f text
  | within ranges => exact extendFirst_map _ f text
  | except ranges => exact extendFirst_map _ f text

/-- The table holds the answers for all suffixes. -/
theorem table_eq_map (tokens : List Token) (text : List Char) :
    table tokens text = (suffixes text).map (matchesTokens tokens) := by
  induction tokens with
  | nil => rfl
  | cons token tokens ih => rw [table, ih, extend_map]; rfl

end Glob

/-- A pattern of paths. -/
structure Glob where
  /-- Its parts. -/
  tokens : List Glob.Token
  deriving Repr, DecidableEq, Inhabited

namespace Glob

/-- Read a pattern. -/
def ofText (pattern : String) : Except Error Glob :=
  (readTokens true pattern.toList).map Glob.mk

/-- A path matches the pattern. -/
def accepts (glob : Glob) (path : String) : Bool :=
  (table glob.tokens path.toList).headD false

/-- A path matches when the tokens match it one after the other. -/
theorem accepts_eq (glob : Glob) (path : String) :
    glob.accepts path = matchesTokens glob.tokens path.toList := by
  rw [accepts, table_eq_map, headD_map_suffixes]

end Glob

end Conformance
