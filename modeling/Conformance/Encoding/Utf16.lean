import Conformance.Encoding.Stepwise

/-!
# UTF-16

Characters are written in units of two bytes, with the high or the low byte first. A character
beyond 65535 takes a high surrogate and a low one. A surrogate that stands alone and a byte that is
left over are malformed, and a byte order mark is a character like any other.
-/

namespace Conformance.Encoding

/-- The order of the bytes of a unit. -/
inductive ByteOrder where
  /-- The high byte comes first. -/
  | big
  /-- The low byte comes first. -/
  | little
  deriving Repr, DecidableEq, Inhabited

/-- The unit of two bytes. -/
def ByteOrder.unit (order : ByteOrder) (first second : UInt8) : Nat :=
  match order with
  | .big => first.toNat * 256 + second.toNat
  | .little => second.toNat * 256 + first.toNat

/-- One step of UTF-16. -/
def utf16Step (order : ByteOrder) : Step := fun first rest =>
  match rest with
  | [] => none
  | second :: rest =>
    let unit := order.unit first second
    if unit < 0xD800 ∨ 0xE000 ≤ unit then (scalar? unit).map fun c => ([c], 1)
    else if 0xDC00 ≤ unit then none
    else
      match rest with
      | third :: fourth :: _ =>
        let low := order.unit third fourth
        if 0xDC00 ≤ low ∧ low < 0xE000 then
          (scalar? (0x10000 + (unit - 0xD800) * 0x400 + (low - 0xDC00))).map fun c => ([c], 3)
        else none
      | _ => none

end Conformance.Encoding
