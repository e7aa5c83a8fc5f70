import Conformance.Encoding.Index.Big5
import Conformance.Encoding.Index.Gb18030
import Conformance.Encoding.Index.Jis0208
import Conformance.Encoding.Index.Jis0212
import Conformance.Encoding.Index.Korean
import Conformance.Encoding.Stepwise

/-!
# East Asian encodings

These encodings write the ASCII characters as they are and other characters in two or more bytes,
which lead to a place in an index. Bytes that lead to no character are malformed. One of them,
ISO-2022-JP, switches between its sets of characters by escape sequences.
-/

namespace Conformance.Encoding

open Index

/-- The character at a place of an index. -/
def place? (rows : Array String) (row place : Nat) : Option Char := do
  let line ← rows[row]?
  let c ← line.toList[place]?
  if c = '\ufffd' then none else some c

/-- The character at a numbered place of an index with rows of a width. -/
def numbered? (rows : Array String) (width number : Nat) : Option Char :=
  place? rows (number / width) (number % width)

/-- A character that uses one further byte. -/
def double (c : Option Char) : Option (List Char × Nat) :=
  c.map fun c => ([c], 1)

/-! ## GBK and gb18030 -/

/-- The code point of a numbered character in four bytes. -/
def gb18030Point? (number : Nat) : Option Nat :=
  if (39419 < number ∧ number < 189000) ∨ 1237575 < number then none
  else if number = 7457 then some 0xE7C7
  else
    match gb18030Ranges.takeWhile (fun range => range.1 ≤ number) |>.getLast? with
    | none => none
    | some (first, point) => some (point + (number - first))

/-- One step of GBK and of gb18030. -/
def gb18030Step : Step := fun lead rest =>
  if lead < 0x80 then single lead.toNat
  else if lead = 0x80 then single 0x20AC
  else if lead = 0xFF then none
  else
    match rest with
    | [] => none
    | second :: rest =>
      if within 0x30 0x39 second then
        match rest with
        | third :: fourth :: _ =>
          if within 0x81 0xFE third && within 0x30 0x39 fourth then do
            let number :=
              (((lead.toNat - 0x81) * 10 + (second.toNat - 0x30)) * 126 +
                (third.toNat - 0x81)) * 10 + (fourth.toNat - 0x30)
            let c ← scalar? (← gb18030Point? number)
            some ([c], 3)
          else none
        | _ => none
      else if within 0x40 0x7E second then
        double (place? gb18030 (lead.toNat - 0x81) (second.toNat - 0x40))
      else if within 0x80 0xFE second then
        double (place? gb18030 (lead.toNat - 0x81) (second.toNat - 0x41))
      else none

/-! ## Big5 -/

/-- One step of Big5. Four pairs of bytes stand for a letter and a mark above it. -/
def big5Step : Step := fun lead rest =>
  if lead < 0x80 then single lead.toNat
  else if lead = 0x80 ∨ lead = 0xFF then none
  else
    match rest with
    | [] => none
    | trail :: _ =>
      let place :=
        if within 0x40 0x7E trail then some (trail.toNat - 0x40)
        else if within 0xA1 0xFE trail then some (trail.toNat - 0x62)
        else none
      match place with
      | none => none
      | some place =>
        match (lead.toNat - 0x81) * 157 + place with
        | 1133 => some (['\u00CA', '\u0304'], 1)
        | 1135 => some (['\u00CA', '\u030C'], 1)
        | 1164 => some (['\u00EA', '\u0304'], 1)
        | 1166 => some (['\u00EA', '\u030C'], 1)
        | _ => double (place? big5 (lead.toNat - 0x81) place)

/-! ## EUC-KR -/

/-- One step of EUC-KR. -/
def eucKrStep : Step := fun lead rest =>
  if lead < 0x80 then single lead.toNat
  else if lead = 0x80 ∨ lead = 0xFF then none
  else
    match rest with
    | [] => none
    | trail :: _ =>
      if within 0x41 0xFE trail then
        double (place? korean (lead.toNat - 0x81) (trail.toNat - 0x41))
      else none

/-! ## Japanese -/

/-- The half-width katakana of a byte from 0xA1 on. -/
def katakana (byte : UInt8) : Option Char :=
  scalar? (0xFF61 + (byte.toNat - 0xA1))

/-- One step of EUC-JP. -/
def eucJpStep : Step := fun lead rest =>
  if lead < 0x80 then single lead.toNat
  else
    match rest with
    | [] => none
    | second :: rest =>
      if lead = 0x8E then
        if within 0xA1 0xDF second then double (katakana second) else none
      else if lead = 0x8F then
        match rest with
        | third :: _ =>
          if within 0xA1 0xFE second && within 0xA1 0xFE third then
            (place? jis0212 (second.toNat - 0xA1) (third.toNat - 0xA1)).map fun c => ([c], 2)
          else none
        | [] => none
      else if within 0xA1 0xFE lead && within 0xA1 0xFE second then
        double (place? jis0208 (lead.toNat - 0xA1) (second.toNat - 0xA1))
      else none

/-- One step of Shift_JIS. Some pairs of bytes stand for characters of private use. -/
def shiftJisStep : Step := fun lead rest =>
  if lead ≤ 0x80 then single lead.toNat
  else if within 0xA1 0xDF lead then (katakana lead).map fun c => ([c], 0)
  else if !(within 0x81 0x9F lead || within 0xE0 0xFC lead) then none
  else
    match rest with
    | [] => none
    | trail :: _ =>
      let row := if lead < 0xA0 then lead.toNat - 0x81 else lead.toNat - 0xC1
      let place :=
        if within 0x40 0x7E trail then some (trail.toNat - 0x40)
        else if within 0x80 0xFC trail then some (trail.toNat - 0x41)
        else none
      match place with
      | none => none
      | some place =>
        let number := row * 188 + place
        if 8836 ≤ number ∧ number ≤ 10715 then double (scalar? (0xE000 + (number - 8836)))
        else double (numbered? jis0208 94 number)

/-- The set of characters that ISO-2022-JP has switched to. -/
inductive JisSet where
  /-- ASCII. -/
  | ascii
  /-- ASCII with a yen sign and an overline. -/
  | roman
  /-- Half-width katakana. -/
  | katakana
  /-- JIS X 0208, in two bytes. -/
  | kanji
  deriving Repr, DecidableEq, Inhabited

/-- The set that an escape sequence switches to. -/
def JisSet.ofEscape? (first second : UInt8) : Option JisSet :=
  if first = 0x28 then
    if second = 0x42 then some .ascii
    else if second = 0x4A then some .roman
    else if second = 0x49 then some .katakana
    else none
  else if first = 0x24 ∧ (second = 0x40 ∨ second = 0x42) then some .kanji
  else none

/-- A character of one byte. -/
def JisSet.char? (set : JisSet) (byte : UInt8) : Option Char :=
  match set with
  | .ascii => plain byte
  | .roman =>
    if byte = 0x5C then some '\u00A5' else if byte = 0x7E then some '\u203E' else plain byte
  | .katakana =>
    if within 0x21 0x5F byte then scalar? (0xFF61 + (byte.toNat - 0x21)) else none
  | .kanji => none
where
  /-- A character of ASCII that does not switch sets. -/
  plain (byte : UInt8) : Option Char :=
    if byte < 0x80 ∧ byte ≠ 0x0E ∧ byte ≠ 0x0F ∧ byte ≠ 0x1B then scalar? byte.toNat else none

/-- A character of two bytes. -/
def JisSet.pair? (set : JisSet) (lead trail : UInt8) : Option Char :=
  if set = .kanji && within 0x21 0x7E lead && within 0x21 0x7E trail then
    place? jis0208 (lead.toNat - 0x21) (trail.toNat - 0x21)
  else none

/-- The characters of ISO-2022-JP after those that are done, the latest first. `switched` says that
nothing was written since the last escape sequence, and a second one is malformed then. -/
def iso2022JpAfter (set : JisSet) (switched : Bool) (done : List Char) (bytes : List UInt8) :
    Option (List Char) :=
  match bytes with
  | [] => some done.reverse
  | byte :: rest =>
    if byte = 0x1B then
      match rest with
      | first :: second :: rest =>
        match JisSet.ofEscape? first second with
        | some set => if switched then none else iso2022JpAfter set true done rest
        | none => none
      | _ => none
    else if set = .kanji then
      match rest with
      | trail :: rest =>
        match set.pair? byte trail with
        | some c => iso2022JpAfter set false (c :: done) rest
        | none => none
      | [] => none
    else
      match set.char? byte with
      | some c => iso2022JpAfter set false (c :: done) rest
      | none => none
termination_by bytes.length

/-- The characters of ISO-2022-JP, which starts with ASCII. -/
def decodeIso2022Jp (bytes : List UInt8) : Option (List Char) :=
  iso2022JpAfter .ascii false [] bytes

end Conformance.Encoding
