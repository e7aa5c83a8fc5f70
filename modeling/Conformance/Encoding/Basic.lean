import Conformance.Encoding.CodePage
import Conformance.Encoding.EastAsian
import Conformance.Encoding.Utf16

/-!
# Encodings

An encoding says which text some bytes stand for. Decoding is strict: bytes that are malformed in
the encoding stand for no text. No encoding treats a byte order mark in a way of its own.
-/

namespace Conformance

/-- An encoding of texts. -/
inductive Encoding where
  /-- UTF-8. -/
  | utf8
  /-- UTF-16 in an order of bytes. -/
  | utf16 (order : Encoding.ByteOrder)
  /-- A code page. -/
  | page (codePage : CodePage)
  /-- The bytes of the upper half stand for characters of private use. -/
  | userDefined
  /-- It stands for encodings that are not safe to decode, and decodes nothing. -/
  | replacement
  /-- GBK. -/
  | gbk
  /-- The encoding gb18030. -/
  | gb18030
  /-- Big5 with its extensions for Hong Kong. -/
  | big5
  /-- EUC-JP. -/
  | eucJp
  /-- ISO-2022-JP. -/
  | iso2022Jp
  /-- Shift_JIS. -/
  | shiftJis
  /-- EUC-KR. -/
  | eucKr
  deriving Repr, DecidableEq, Inhabited

namespace Encoding

/-- The name of an encoding. -/
def name : Encoding → String
  | utf8 => "UTF-8"
  | utf16 .big => "UTF-16BE"
  | utf16 .little => "UTF-16LE"
  | page codePage => codePage.name
  | userDefined => "x-user-defined"
  | replacement => "replacement"
  | gbk => "GBK"
  | gb18030 => "gb18030"
  | big5 => "Big5"
  | eucJp => "EUC-JP"
  | iso2022Jp => "ISO-2022-JP"
  | shiftJis => "Shift_JIS"
  | eucKr => "EUC-KR"

/-- The character of a byte where the upper half is for private use. -/
def userDefinedChar? (byte : UInt8) : Option Char :=
  scalar? (if byte < 0x80 then byte.toNat else 0xF700 + byte.toNat)

/-- The characters that bytes stand for in an encoding other than UTF-8. -/
def decodeChars (bytes : List UInt8) : Encoding → Option (List Char)
  | utf8 => (String.fromUTF8? bytes.toByteArray).map String.toList
  | utf16 order => decodeSteps (utf16Step order) bytes
  | page codePage => codePage.decode bytes
  | userDefined => bytes.mapM userDefinedChar?
  | replacement => if bytes.isEmpty then some [] else none
  | gbk => decodeSteps gb18030Step bytes
  | gb18030 => decodeSteps gb18030Step bytes
  | big5 => decodeSteps big5Step bytes
  | eucJp => decodeSteps eucJpStep bytes
  | iso2022Jp => decodeIso2022Jp bytes
  | shiftJis => decodeSteps shiftJisStep bytes
  | eucKr => decodeSteps eucKrStep bytes

/-- The text that bytes stand for. -/
def decode (encoding : Encoding) (bytes : ByteArray) : Option String :=
  match encoding with
  | utf8 => String.fromUTF8? bytes
  | other => (other.decodeChars bytes.toList).map String.ofList

end Encoding

end Conformance
