import Conformance.Proofs.Snafu.Phase

/-!
# Room for factors

Factors nest to a fixed depth. What has been read leaves room when no factor is due there inside as
many others as may be open. The phase after what has been read tells: only where an operand is due
can a factor be, and how many are open around it then follows from the signs and parentheses. So
there is room at every place of a text but in front of a factor that would be one too many.
-/

namespace Conformance.Snafu

/-- No factor is due behind some kinds inside as many others as may be open. -/
def Roomy (goal : Symbol) (kinds : List Kind) : Prop :=
  ∀ opened, Awaits goal .factor opened kinds → opened < maxDepth

variable {goal : Symbol} {opened nesting : Nat} {before value : List Kind}

/-- There is room in a phase in which no operand is due. -/
theorem roomy_of_reach {phase : Phase}
    (reached : Phase.reach none (.initial goal) before = some phase)
    (other : ∀ signs outer, phase ≠ .operand signs outer) : Roomy goal before := by
  intro opened awaits
  obtain ⟨found, same, signs, outer, rfl, -⟩ := Phase.exists_phase_of_awaits awaits
  rw [reached] at same
  exact absurd (Option.some.inj same) (other signs outer)

namespace Awaits

/-- Where a factor is due that may still be opened, there is room. -/
theorem roomy_factor (awaits : Awaits goal .factor opened before) (free : opened < maxDepth) :
    Roomy goal before := by
  intro other again
  obtain ⟨phase, reached, signs, outer, rfl, count⟩ := Phase.exists_phase_of_awaits awaits
  obtain ⟨found, same, signs', outer', rfl, count'⟩ := Phase.exists_phase_of_awaits again
  rw [reached] at same
  obtain ⟨rfl, rfl⟩ := Phase.operand.inj (Option.some.inj same)
  omega

/-- Where a statement is due, there is room. -/
theorem roomy_statement (awaits : Awaits goal .statement opened before) : Roomy goal before :=
  roomy_of_reach awaits.reach_statement.1 nofun

/-- Behind the word that starts an assignment there is room. -/
theorem roomy_name (awaits : Awaits goal .statement opened before) :
    Roomy goal (before ++ [letKind]) :=
  roomy_of_reach awaits.reach_name nofun

/-- Behind the name of an assignment there is room. -/
theorem roomy_assign (awaits : Awaits goal .statement opened before) :
    Roomy goal (before ++ [letKind, nameKind]) :=
  roomy_of_reach awaits.reach_assign nofun

/-- Behind an expression there is room. -/
theorem roomy_value (awaits : Awaits goal .expression opened before)
    (derives : Derives .expression nesting value) : Roomy goal (before ++ value) := by
  obtain ⟨outer, reached, -⟩ := awaits.reach_value derives
  exact roomy_of_reach reached nofun

end Awaits

/-- There is room in front of each of some kinds. -/
def Passable (goal : Symbol) (kinds : List Kind) : Prop :=
  ∀ read, read <+: kinds → read ≠ kinds → Roomy goal read

/-- Nothing is in front of no kinds. -/
theorem passable_nil : Passable goal [] :=
  fun _ front shorter => absurd (List.prefix_nil.1 front) shorter

/-- Where there is room, one kind more can be passed. -/
theorem Passable.concat {kinds : List Kind} (passable : Passable goal kinds)
    (room : Roomy goal kinds) (kind : Kind) : Passable goal (kinds ++ [kind]) := by
  intro read front shorter
  rcases List.prefix_concat_iff.1 front with whole | front
  · exact absurd whole shorter
  · by_cases same : read = kinds
    · exact same ▸ room
    · exact passable read front same

end Conformance.Snafu
