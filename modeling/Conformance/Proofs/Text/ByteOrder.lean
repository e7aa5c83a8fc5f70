import Mathlib.Data.String.Basic

/-!
# The order of texts by their bytes

Texts are ordered by the code points of their characters. The encoding of a character in bytes
keeps that order, and none begins another one, so comparing texts byte by byte gives the same
order.
-/

namespace Conformance.Text

/-- The bytes that encode a text. -/
def bytes (text : String) : List UInt8 :=
  text.toUTF8.data.toList

/-- A text is encoded one character after the other. -/
theorem bytes_eq_flatMap (text : String) :
    bytes text = text.toList.flatMap String.utf8EncodeChar := by
  obtain ⟨chars, rfl⟩ := text.exists_eq_ofList
  rw [bytes, String.toUTF8_eq_toByteArray, String.toByteArray_ofList, String.toList_ofList,
    List.utf8Encode]
  simp

/-- The bytes of a character are before those of a later one, whatever follows them. Where the
lengths differ the first bytes decide, and otherwise the first digits that differ. -/
theorem encode_append_lt {c d : Char} (before : c < d) (rest others : List UInt8) :
    String.utf8EncodeChar c ++ rest < String.utf8EncodeChar d ++ others := by
  have less : c.val.toNat < d.val.toNat := before
  have bound : d.val.toNat < 0x110000 := by
    rcases d.valid with low | high <;> omega
  unfold String.utf8EncodeChar
  generalize c.val.toNat = first at less
  generalize d.val.toNat = second at less bound
  have twice (number : Nat) : number / 4096 = number / 64 / 64 := by omega
  have thrice (number : Nat) : number / 262144 = number / 64 / 64 / 64 := by omega
  dsimp only
  split_ifs <;>
  · simp (disch := omega) only [List.cons_append, List.cons_lt_cons_iff, UInt8.lt_iff_toNat_lt,
      ← UInt8.toNat_inj, UInt8.toNat_ofNat', Nat.mod_eq_of_lt, twice, thrice]
    omega

/-- The characters of a text before those of another one are encoded before them. -/
theorem flatMap_encode_lt {chars others : List Char} (before : chars < others) :
    chars.flatMap String.utf8EncodeChar < others.flatMap String.utf8EncodeChar := by
  induction before with
  | @nil d rest =>
    rw [List.flatMap_nil, List.flatMap_cons]
    obtain ⟨byte, more, encoded⟩ :=
      List.exists_cons_of_ne_nil (String.utf8EncodeChar_ne_nil (c := d))
    rw [encoded]
    exact List.nil_lt_cons _ _
  | rel earlier =>
    rw [List.flatMap_cons, List.flatMap_cons]
    exact encode_append_lt earlier _ _
  | cons _ ih =>
    rw [List.flatMap_cons, List.flatMap_cons]
    exact List.append_left_lt ih

/-- A text before another one is before it byte by byte. -/
theorem bytes_lt_of_lt {text other : String} (before : text < other) :
    bytes text < bytes other := by
  rw [bytes_eq_flatMap, bytes_eq_flatMap]
  exact flatMap_encode_lt (String.lt_iff_toList_lt.1 before)

end Conformance.Text
