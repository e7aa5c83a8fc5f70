import Mathlib.Data.List.Lex
import Mathlib.Data.Prod.Lex
import Mathlib.Data.String.Basic
import Conformance.Files.Path

/-!
# The order of paths

Paths are compared by their components, not by their characters: the separators between names take
no part in it. A directory and the names below it, joined to one path, have the components of the
directory and then the names. So paths below one directory come in the order of the names.
-/

namespace Conformance.Path

/-! ## Components -/

/-- What a part of a path stands for, in the order in which paths are compared. -/
inductive Component where
  /-- The root, in front of an absolute path. -/
  | root
  /-- The directory that a path starts from, where a dot at its front names it. -/
  | current
  /-- The directory above. -/
  | parent
  /-- An entry. -/
  | named (name : String)
  deriving DecidableEq

namespace Component

/-- The place of a component among the kinds of components, and its name. -/
def key : Component → Nat ×ₗ String
  | root => toLex (0, "")
  | current => toLex (1, "")
  | parent => toLex (2, "")
  | named name => toLex (3, name)

/-- No two components have the same place. -/
theorem key_injective : Function.Injective key := by
  intro first second same
  cases first <;> cases second <;> simp_all [key]

instance : LinearOrder Component :=
  LinearOrder.lift' key key_injective

/-- Entries are compared by their names. -/
theorem named_lt_named {first second : String} (earlier : first < second) :
    named first < named second :=
  Prod.Lex.toLex_lt_toLex.2 (.inr ⟨rfl, earlier⟩)

/-- What a part of a path stands for, if it does not stay where it is. -/
def ofPart? (part : String) : Option Component :=
  if part = "" ∨ part = "." then none
  else if part = ".." then some .parent
  else some (.named part)

end Component

/-- The components of a path. -/
def components (path : String) : List Component :=
  (if isAbsolute path then [.root] else if (texts path).head? = some "." then [.current] else []) ++
    (texts path).filterMap Component.ofPart?

/-! ## Names -/

/-- A text that names an entry of a directory. -/
structure IsName (text : String) : Prop where
  /-- It is no part of a path with a meaning of its own. -/
  plain : text ∉ ["", ".", ".."]
  /-- It is one part of a path. -/
  whole : '/' ∉ text.toList

instance (text : String) : Decidable (IsName text) :=
  decidable_of_iff (text ∉ ["", ".", ".."] ∧ '/' ∉ text.toList)
    ⟨fun ⟨plain, whole⟩ => ⟨plain, whole⟩, fun proper => ⟨proper.plain, proper.whole⟩⟩

/-- A name stands for its entry. -/
theorem IsName.ofPart? {name : String} (proper : IsName name) :
    Component.ofPart? name = some (.named name) := by
  obtain ⟨plain, -⟩ := proper
  simp only [List.mem_cons, List.not_mem_nil, or_false, not_or] at plain
  simp [Component.ofPart?, plain]

/-! ## Parts -/

/-- A path has parts. -/
theorem parts_ne_nil (path : List Char) : parts path ≠ [] := by
  fun_cases parts path <;> simp_all

/-- A path has texts for its parts. -/
theorem texts_ne_nil (path : String) : texts path ≠ [] :=
  fun empty => parts_ne_nil path.toList (List.map_eq_nil_iff.1 empty)

/-- A slash ends a part. -/
theorem parts_append_slash (left right : List Char) :
    parts (left ++ '/' :: right) = parts left ++ parts right := by
  fun_induction parts left with
  | case1 => rfl
  | case2 rest ih => simp [parts, ih]
  | case3 c rest other empty => exact absurd empty (parts_ne_nil rest)
  | case4 c rest other part others split ih =>
    rw [List.cons_append, parts.eq_3 _ _ other, ih, split]
    rfl

/-- A text without slashes is one part. -/
theorem parts_of_not_mem {text : List Char} (whole : '/' ∉ text) : parts text = [text] := by
  induction text with
  | nil => rfl
  | cons c text ih =>
    rw [List.mem_cons, not_or] at whole
    obtain ⟨other, rest⟩ := whole
    rw [parts.eq_3 _ _ fun same => other same.symm, ih rest]

/-- The parts of two texts with a slash between them. -/
theorem texts_slash (left right : String) :
    texts (left ++ "/" ++ right) = texts left ++ texts right := by
  have slash : (left ++ "/" ++ right).toList = left.toList ++ '/' :: right.toList := by simp
  rw [texts, slash, parts_append_slash, List.map_append]
  rfl

/-- A name is the only part of itself. -/
theorem texts_name {name : String} (proper : IsName name) : texts name = [name] := by
  rw [texts, parts_of_not_mem proper.whole]
  simp

/-- Names below each other are the parts of their path. -/
theorem texts_ofNames {names : List String} (some : names ≠ [])
    (proper : ∀ name ∈ names, IsName name) : texts (ofNames names) = names := by
  induction names with
  | nil => exact absurd rfl some
  | cons name names ih =>
    have first : texts name = [name] := texts_name (proper name List.mem_cons_self)
    cases names with
    | nil => simpa [ofNames] using first
    | cons second names =>
      have rest := ih (List.cons_ne_nil _ _) fun name found =>
        proper name (List.mem_cons_of_mem _ found)
      have split : ofNames (name :: second :: names) =
          name ++ "/" ++ ofNames (second :: names) := by
        simp [ofNames]
      rw [split, texts_slash, first, rest]
      rfl

/-! ## Joined paths -/

variable {directory path : String} {names : List String}

/-- What follows a text does not change whether it starts at the root. -/
theorem isAbsolute_append (some : directory ≠ "") (rest : String) :
    isAbsolute (directory ++ rest) = isAbsolute directory := by
  have more : directory.toList ≠ [] := fun empty => some (String.toList_eq_nil_iff.1 empty)
  obtain ⟨c, tail, split⟩ := List.exists_cons_of_ne_nil more
  simp [isAbsolute, split]

/-- Names below each other start at no root. -/
theorem isAbsolute_ofNames (some : names ≠ []) (proper : ∀ name ∈ names, IsName name) :
    isAbsolute (ofNames names) = false := by
  obtain ⟨name, rest, rfl⟩ := List.exists_cons_of_ne_nil some
  obtain ⟨plain, whole⟩ := proper name List.mem_cons_self
  have more : name ≠ "" := fun empty => plain (empty ▸ List.mem_cons_self)
  have starts : isAbsolute name = false := by
    rw [isAbsolute, beq_eq_false_iff_ne]
    exact fun slash => whole (List.mem_of_mem_head? slash)
  cases rest with
  | nil => simpa [ofNames] using starts
  | cons second rest =>
    have split : ofNames (name :: second :: rest) = name ++ ("/" ++ ofNames (second :: rest)) := by
      simp [ofNames, String.append_assoc]
    rw [split, isAbsolute_append more, starts]

/-- A path joined to a directory stands behind it and a slash, which the directory may end with. -/
theorem exists_join (some : directory ≠ "") (relative : isAbsolute path = false) :
    ∃ base, (directory = base ∨ directory = base ++ "/") ∧
      join directory path = base ++ "/" ++ path := by
  have more : directory.isEmpty = false :=
    Bool.eq_false_iff.2 fun empty => some (String.isEmpty_iff.1 empty)
  rw [join, relative, more, if_neg Bool.false_ne_true]
  by_cases ends : directory.toList.getLast? = Option.some '/'
  · obtain ⟨base, split⟩ := List.getLast?_eq_some_iff.1 ends
    have slash : directory = String.ofList base ++ "/" := by
      rw [← String.toList_inj, split]
      simp
    refine ⟨String.ofList base, .inr slash, ?_⟩
    rw [ends, slash]
    rfl
  · refine ⟨directory, .inl rfl, ?_⟩
    simp [ends]

/-- Joined to a path, a directory keeps its components in front of the names that follow. -/
theorem components_join (some : directory ≠ "") (more : names ≠ [])
    (proper : ∀ name ∈ names, IsName name) :
    components (join directory (ofNames names)) =
      components directory ++ names.map Component.named := by
  obtain ⟨base, written, joined⟩ := exists_join some (isAbsolute_ofNames more proper)
  have behind : texts (join directory (ofNames names)) = texts base ++ names := by
    rw [joined, texts_slash, texts_ofNames more proper]
  have named : names.filterMap Component.ofPart? = names.map Component.named := by
    rw [← List.filterMap_eq_map]
    exact List.filterMap_congr fun name found => (proper name found).ofPart?
  have starts : isAbsolute (join directory (ofNames names)) = isAbsolute directory := by
    rcases written with rfl | rfl
    · rw [joined, String.append_assoc, isAbsolute_append some]
    · rw [joined, isAbsolute_append some]
  have head (rest : List String) : (texts base ++ rest).head? = (texts base).head? :=
    List.head?_append_of_ne_nil _ (texts_ne_nil base)
  rcases written with rfl | rfl
  · rw [components, components, starts, behind, head, List.filterMap_append, named,
      List.append_assoc]
  · have empty : texts (base ++ "/") = texts base ++ [""] := by
      rw [← String.append_empty (s := base ++ "/"), texts_slash]
      rfl
    have nothing : List.filterMap Component.ofPart? [""] = [] := rfl
    rw [components, components, starts, behind, empty, head, head, List.filterMap_append, named,
      List.filterMap_append, nothing, List.append_nil, List.append_assoc]

/-! ## The order -/

/-- Names come before others when the first one that differs does. -/
theorem before_iff (firsts seconds : List String) :
    before firsts seconds = true ↔ firsts < seconds := by
  fun_induction before firsts seconds with
  | case1 => simp
  | case2 => simp
  | case3 => simp
  | case4 first firsts second seconds ih => simp [ih, List.cons_lt_cons_iff]

/-- Names do not come before others when those come before them or are the same. -/
theorem not_before_eq (firsts seconds : List String) :
    (!before seconds firsts) = decide (firsts ≤ seconds) := by
  rw [Bool.eq_iff_iff, Bool.not_eq_true', ← Bool.not_eq_true, before_iff, decide_eq_true_iff,
    not_lt]

/-- Below one directory, paths come in the order of their names. -/
theorem components_join_lt {firsts seconds : List String} (some : directory ≠ "")
    (one : firsts ≠ []) (other : seconds ≠ []) (proper : ∀ name ∈ firsts ++ seconds, IsName name)
    (earlier : firsts < seconds) :
    components (join directory (ofNames firsts)) <
      components (join directory (ofNames seconds)) := by
  rw [List.forall_mem_append] at proper
  rw [components_join some one proper.1, components_join some other proper.2]
  exact List.append_left_lt (List.map_lt (fun _ _ => Component.named_lt_named) earlier)

end Conformance.Path
