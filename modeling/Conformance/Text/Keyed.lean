/-!
# Lists in the order of a text key

Values that are looked up by a name are kept in a list in ascending order of that name, each name
once. `put` adds a value at its place and replaces the one that had its name. Names are ordered by
their code points, which is also the order of their encoded bytes.
-/

namespace Conformance.Keyed

variable {α : Type} (key : α → String)

/-- Every key is before all keys after it, so each occurs once. -/
abbrev Ascending (entries : List α) : Prop :=
  entries.Pairwise fun first second => key first < key second

/-- The entry of a key. -/
def find? (name : String) (entries : List α) : Option α :=
  entries.find? fun entry => key entry == name

/-- Add an entry at its place, in the place of one with its key. -/
def put (entry : α) : List α → List α
  | [] => [entry]
  | head :: tail =>
    if key entry < key head then entry :: head :: tail
    else if key entry = key head then entry :: tail
    else head :: put entry tail

variable {key}

/-- An entry of the result is the added one or an entry from before. -/
theorem mem_of_mem_put {entry other : α} {entries : List α}
    (found : other ∈ put key entry entries) : other = entry ∨ other ∈ entries := by
  induction entries with
  | nil => simpa [put] using found
  | cons head tail ih =>
    unfold put at found
    split at found
    · simpa using found
    · split at found
      · rcases List.mem_cons.1 found with same | later
        · exact .inl same
        · exact .inr (List.mem_cons_of_mem _ later)
      · rcases List.mem_cons.1 found with same | later
        · exact .inr (same ▸ List.mem_cons_self)
        · exact (ih later).imp_right (List.mem_cons_of_mem _)

/-- Adding an entry keeps the order. -/
theorem ascending_put (entry : α) {entries : List α} (ordered : Ascending key entries) :
    Ascending key (put key entry entries) := by
  induction entries with
  | nil => simp [put]
  | cons head tail ih =>
    obtain ⟨first, rest⟩ := List.pairwise_cons.1 ordered
    unfold put
    split
    · next before =>
      refine List.pairwise_cons.2 ⟨fun other found => ?_, ordered⟩
      rcases List.mem_cons.1 found with same | later
      · exact same ▸ before
      · exact String.lt_trans before (first other later)
    · next reached =>
      split
      · next same => exact List.pairwise_cons.2 ⟨fun other found => same ▸ first other found, rest⟩
      · next different =>
        refine List.pairwise_cons.2 ⟨fun other found => ?_, ih rest⟩
        rcases mem_of_mem_put found with same | later
        · refine same ▸ Decidable.byContradiction fun reversed => different ?_
          exact String.le_antisymm (String.not_lt.1 reversed) (String.not_lt.1 reached)
        · exact first other later

/-- An entry before the first one is added in front. -/
theorem put_of_lt {entry head : α} (before : key entry < key head) (tail : List α) :
    put key entry (head :: tail) = entry :: head :: tail := by
  rw [put, if_pos before]

/-- An entry after all others is added at the end. -/
theorem put_of_forall_lt {entry : α} {entries : List α}
    (last : ∀ other ∈ entries, key other < key entry) :
    put key entry entries = entries ++ [entry] := by
  induction entries with
  | nil => rfl
  | cons head tail ih =>
    obtain ⟨first, rest⟩ := List.forall_mem_cons.1 last
    have reached : ¬key entry < key head := String.lt_asymm first
    have other : key entry ≠ key head := fun same => String.lt_irrefl _ (same ▸ first)
    rw [put, if_neg reached, if_neg other, ih rest, List.cons_append]

/-- The added entry is found under its key. -/
theorem find?_put_self (entry : α) (entries : List α) :
    find? key (key entry) (put key entry entries) = some entry := by
  induction entries with
  | nil => simp [put, find?]
  | cons head tail ih =>
    unfold put
    split
    · simp [find?]
    · split
      · simp [find?]
      · next other =>
        have apart : (key head == key entry) = false := by
          simpa using fun same => other same.symm
        simpa [find?, List.find?_cons, apart] using ih

/-- Other keys keep their entries. -/
theorem find?_put_of_ne {entry : α} {name : String} (other : key entry ≠ name) (entries : List α) :
    find? key name (put key entry entries) = find? key name entries := by
  have apart : (key entry == name) = false := by simpa using other
  induction entries with
  | nil => simp [put, find?, apart]
  | cons head tail ih =>
    unfold put
    split
    · simp [find?, List.find?_cons, apart]
    · split
      · next same => simp [find?, apart, ← same]
      · simp only [find?, List.find?_cons] at ih ⊢
        split
        · rfl
        · exact ih

end Conformance.Keyed
