/-!
# Environments

The environment of a program: variables with their values. A variable that is meant as a flag
counts only when its value is exactly `true` or `false`.
-/

namespace Conformance

/-- The variables of a program with their values. -/
structure Environment where
  /-- The variables, each with its value. -/
  entries : List (String × String)
  deriving Repr, DecidableEq, Inhabited

namespace Environment

/-- The value of a variable that is set. -/
def get? (environment : Environment) (name : String) : Option String :=
  environment.entries.lookup name

/-- The flag that a variable spells. -/
def flag? (environment : Environment) (name : String) : Option Bool :=
  match environment.get? name with
  | some "true" => some true
  | some "false" => some false
  | _ => none

end Environment

end Conformance
