/-!
# Decoding step by step

An encoding that uses several bytes for a character is decoded one step after the other. A step is
told the next byte and those after it, and answers the characters that they stand for with the
number of further bytes that it used up, or that the bytes are malformed.
-/

namespace Conformance.Encoding

/-- One step of a decoder. -/
abbrev Step := UInt8 → List UInt8 → Option (List Char × Nat)

/-- The characters before some bytes, the latest first, and those that the steps find in the
bytes. -/
def decodeAfter (step : Step) (done : List Char) (bytes : List UInt8) : Option (List Char) :=
  match bytes with
  | [] => some done.reverse
  | byte :: rest =>
    match step byte rest with
    | none => none
    | some (chars, more) => decodeAfter step (chars.reverse ++ done) (rest.drop more)
termination_by bytes.length
decreasing_by
  simp only [List.length_drop, List.length_cons]
  omega

/-- The characters that the steps find in bytes. -/
def decodeSteps (step : Step) (bytes : List UInt8) : Option (List Char) :=
  decodeAfter step [] bytes

/-- The character of a code point, unless there is none. -/
def scalar? (number : Nat) : Option Char :=
  if h : number.isValidChar then some (Char.ofNatAux number h) else none

/-- A character that uses no further bytes. -/
def single (number : Nat) : Option (List Char × Nat) :=
  (scalar? number).map fun c => ([c], 0)

/-- A byte lies between two others, both included. -/
def within (first last byte : UInt8) : Bool :=
  first ≤ byte && byte ≤ last

end Conformance.Encoding
