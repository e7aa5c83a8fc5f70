import Conformance.Text.Blank
import Mathlib.Data.List.TakeWhile
import Mathlib.Data.String.Basic

/-!
# Texts with blanks around them

Where only what is left without the blanks at its ends counts, more blanks there make no
difference. Where the text itself counts, any blank that was added shows, because a text that begins
or ends with one is not what is left of it.
-/

namespace Conformance.Text

/-- A text with blanks added before or behind it. -/
inductive Padded (text : String) : String → Prop where
  /-- Nothing but blanks is added. -/
  | intro {before after : String} (blankBefore : isAllBlank before = true)
    (blankAfter : isAllBlank after = true) : Padded text (before ++ text ++ after)

/-- Blanks at the ends of characters are removed with the others there. -/
theorem trimChars_padded {before after : List Char} (blankBefore : ∀ c ∈ before, isBlank c = true)
    (blankAfter : ∀ c ∈ after, isBlank c = true) (chars : List Char) :
    trimChars (before ++ chars ++ after) = trimChars chars := by
  have blankBehind : ∀ c ∈ after.reverse, isBlank c = true :=
    fun c member => blankAfter c (List.mem_reverse.1 member)
  unfold trimChars
  rw [List.append_assoc, List.dropWhile_append_of_pos blankBefore, List.dropWhile_append]
  by_cases nothing : (chars.dropWhile isBlank).isEmpty = true
  · have none : after.dropWhile isBlank = [] := List.dropWhile_eq_nil_iff.2 blankAfter
    rw [if_pos nothing, none, List.isEmpty_iff.1 nothing]
  · rw [if_neg nothing, List.reverse_append, List.dropWhile_append_of_pos blankBehind]

/-- What is left without blanks at the ends is no longer. -/
theorem length_trimChars_le (chars : List Char) : (trimChars chars).length ≤ chars.length := by
  rw [trimChars, List.length_reverse]
  calc
    ((chars.dropWhile isBlank).reverse.dropWhile isBlank).length
      ≤ (chars.dropWhile isBlank).reverse.length := (List.dropWhile_sublist _).length_le
    _ = (chars.dropWhile isBlank).length := List.length_reverse
    _ ≤ chars.length := (List.dropWhile_sublist _).length_le

/-- A text without blanks is left as it is. -/
theorem trim_of_solid {text : String} (solid : ∀ c ∈ text.toList, isBlank c = false) :
    trim text = text := by
  have same {chars : List Char} (solid : ∀ c ∈ chars, isBlank c = false) :
      chars.dropWhile isBlank = chars := by
    cases chars with
    | nil => rfl
    | cons c chars =>
      exact List.dropWhile_cons_of_neg (Bool.eq_false_iff.1 (solid c List.mem_cons_self))
  have solidBehind : ∀ c ∈ text.toList.reverse, isBlank c = false :=
    fun c member => solid c (List.mem_reverse.1 member)
  rw [trim, trimChars, same solid, same solidBehind, List.reverse_reverse, String.ofList_toList]

namespace Padded

variable {text padded : String}

/-- A text is its own with no blank added. -/
theorem refl (text : String) : Padded text text := by
  have whole : "" ++ text ++ "" = text := by rw [String.empty_append, String.append_empty]
  have nothing : Padded text ("" ++ text ++ "") := .intro rfl rfl
  rwa [whole] at nothing

/-- The same is left of a text with blanks added. -/
theorem trim_eq (padding : Padded text padded) : trim padded = trim text := by
  cases padding with
  | intro blankBefore blankAfter =>
    unfold trim
    rw [String.toList_append, String.toList_append,
      trimChars_padded (List.all_eq_true.1 blankBefore) (List.all_eq_true.1 blankAfter)]

/-- Blanks added make a text blank only if it was. -/
theorem isAllBlank_eq (padding : Padded text padded) : isAllBlank padded = isAllBlank text := by
  cases padding with
  | intro blankBefore blankAfter =>
    unfold isAllBlank at blankBefore blankAfter ⊢
    rw [String.toList_append, String.toList_append, List.all_append, List.all_append, blankBefore,
      blankAfter, Bool.true_and, Bool.and_true]

/-- With a blank added, a text is not what is left of it. -/
theorem trim_ne (padding : Padded text padded) (added : padded ≠ text) : trim padded ≠ padded := by
  intro same
  rw [padding.trim_eq] at same
  have short := length_trimChars_le text.toList
  cases padding with
  | @intro before after blankBefore blankAfter =>
    have length := congrArg (fun text : String => text.toList.length) same
    simp only [trim, String.toList_ofList, String.toList_append, List.length_append] at length
    have front : before.toList = [] := List.length_eq_zero_iff.1 (by omega)
    have behind : after.toList = [] := List.length_eq_zero_iff.1 (by omega)
    apply added
    apply String.toList_inj.1
    rw [String.toList_append, String.toList_append, front, behind, List.nil_append,
      List.append_nil]

end Padded

end Conformance.Text
