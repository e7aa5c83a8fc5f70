import Conformance.Text.Blank

/-!
# The identity of a grammar

A grammar is known by its name within a namespace. The names of its lexer and of its parser derive
from both and from the role that is played.
-/

namespace Conformance

/-- The part that an implementation plays for a grammar. -/
inductive Role where
  /-- It cuts texts into tokens. -/
  | lexer
  /-- It recognizes token sequences. -/
  | parser
  deriving Repr, DecidableEq, Inhabited

/-- The end of the names of a role. -/
def Role.suffix : Role → String
  | .lexer => "Lexer"
  | .parser => "Parser"

/-- The name of something that belongs to a grammar: the namespace, unless it is empty, and a dot,
then the name of the grammar with a suffix. -/
def qualifiedName (scope grammar suffix : String) : String :=
  if scope.isEmpty then grammar ++ suffix else scope ++ "." ++ grammar ++ suffix

/-- A grammar's name and the namespace it lives in, neither with blanks around it. -/
structure GrammarIdentity where
  /-- The namespace; it is empty when there is none. -/
  scope : String
  /-- The name of the grammar. -/
  name : String
  deriving Repr, DecidableEq, Inhabited

/-- The identity that two settings give, unless the name of the grammar is blank. -/
def GrammarIdentity.ofNames? (scope name : String) : Option GrammarIdentity :=
  let name := Text.trim name
  if name.isEmpty then none else some ⟨Text.trim scope, name⟩

end Conformance
