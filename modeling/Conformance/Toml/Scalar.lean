import Conformance.Time.Timestamp
import Conformance.Toml.Value

/-!
# Numbers, moments and flags of a TOML document

A value that is neither a text nor a list nor a table is a word: a run of letters, digits and a few
signs. Its spelling tells what it is. Digits may be grouped by single underscores between two of
them. A whole number fits into 64 bits with a sign, and a positive decimal number is not so large
that a double precision number for it would be infinite.
-/

namespace Conformance.Toml

/-- A character of a word. -/
def isWordChar (c : Char) : Bool :=
  c.isAlphanum || c == '+' || c == '-' || c == '_' || c == '.' || c == ':'

/-- Digits, of which the first one and each one after an underscore have to be there. Underscores
are left out of the answer. -/
def groupedDigits? (isDigit : Char → Bool) : List Char → Option (List Char)
  | [] => none
  | [c] => if isDigit c then some [c] else none
  | c :: '_' :: rest =>
    if isDigit c then (groupedDigits? isDigit rest).map (c :: ·) else none
  | c :: rest =>
    if isDigit c then (groupedDigits? isDigit rest).map (c :: ·) else none

/-- The number that digits of a base stand for. -/
def ofDigits (base : Nat) (digits : List Char) : Nat :=
  digits.foldl (fun number c =>
    let digit :=
      if c.isDigit then c.toNat - '0'.toNat
      else if c.isLower then c.toNat - 'a'.toNat + 10
      else c.toNat - 'A'.toNat + 10
    base * number + digit) 0

/-- A sign and what follows it; no sign is a plus. -/
def splitSign : List Char → Bool × List Char
  | '+' :: rest => (false, rest)
  | '-' :: rest => (true, rest)
  | rest => (false, rest)

/-- The decimal digits of a whole number, which has no leading zeros. -/
def wholeDigits? (word : List Char) : Option (List Char) :=
  match word with
  | '0' :: _ :: _ => none
  | _ => groupedDigits? Char.isDigit word

/-- A number in a 64-bit word with a sign. -/
def inRange? (number : Int) : Option Int :=
  if -9223372036854775808 ≤ number ∧ number ≤ 9223372036854775807 then some number else none

/-- A whole number. -/
def integer? (word : List Char) : Option Int :=
  match word with
  | '0' :: 'x' :: digits => do
    inRange? (ofDigits 16 (← groupedDigits? isHexDigit digits))
  | '0' :: 'o' :: digits => do
    inRange? (ofDigits 8 (← groupedDigits? (fun c => '0' ≤ c ∧ c ≤ '7') digits))
  | '0' :: 'b' :: digits => do
    inRange? (ofDigits 2 (← groupedDigits? (fun c => c = '0' ∨ c = '1') digits))
  | _ => do
    let (negative, digits) := splitSign word
    let number : Int := ofDigits 10 (← wholeDigits? digits)
    inRange? (if negative then -number else number)
where
  /-- A hexadecimal digit in either case. -/
  isHexDigit (c : Char) : Bool :=
    c.isDigit || ('a' ≤ c && c ≤ 'f') || ('A' ≤ c && c ≤ 'F')

/-- A number of digits times a power of ten rounds to infinity in double precision. -/
def overflows (digits : List Char) (exponent : Int) : Bool :=
  let digits := digits.dropWhile (· == '0')
  let magnitude : Int := digits.length + exponent
  let limit := Nat.pow 2 1024 - Nat.pow 2 970
  if digits.isEmpty || magnitude < 300 then false
  else if 320 < magnitude then true
  else if 0 ≤ exponent then limit ≤ ofDigits 10 digits * Nat.pow 10 exponent.toNat
  else limit * Nat.pow 10 exponent.natAbs ≤ ofDigits 10 digits

/-- The exponent of a decimal number. -/
def exponent? (word : List Char) : Option Int := do
  let (negative, digits) := splitSign word
  let number : Int := ofDigits 10 (← groupedDigits? Char.isDigit digits)
  some (if negative then -number else number)

/-- The spelling is that of a decimal number. -/
def isDecimal (word : List Char) : Bool :=
  let (negative, rest) := splitSign word
  if rest == "inf".toList || rest == "nan".toList then true
  else
    let isExponentSign : Char → Bool := fun c => c == 'e' || c == 'E'
    let (number, power) := rest.span (!isExponentSign ·)
    let (whole, fraction) := number.span (· != '.')
    let read : Option Bool := do
      let whole ← wholeDigits? whole
      let fraction ←
        match fraction with
        | [] => if power.isEmpty then none else some []
        | _ :: digits => groupedDigits? Char.isDigit digits
      let exponent ←
        match power with
        | [] => some 0
        | _ :: digits => exponent? digits
      some (negative || !overflows (whole ++ fraction) (exponent - fraction.length))
    read.getD false

/-! ## Moments -/

/-- A number of exactly as many digits, within bounds, and what follows it. -/
def fixedNumber? (width least most : Nat) (word : List Char) : Option (Nat × List Char) :=
  let digits := word.take width
  let number := ofDigits 10 digits
  if digits.length = width ∧ digits.all Char.isDigit ∧ least ≤ number ∧ number ≤ most then
    some (number, word.drop width)
  else none

/-- What follows a character. -/
def after? (c : Char) : List Char → Option (List Char)
  | d :: rest => if c = d then some rest else none
  | [] => none

/-- The days of a month. -/
def daysOfMonth (year month : Nat) : Nat :=
  if month = 2 then
    if year % 4 = 0 ∧ (year % 100 ≠ 0 ∨ year % 400 = 0) then 29 else 28
  else if month = 4 ∨ month = 6 ∨ month = 9 ∨ month = 11 then 30
  else 31

/-- What follows a date. -/
def date? (word : List Char) : Option (List Char) := do
  let (year, rest) ← fixedNumber? 4 0 9999 word
  let (month, rest) ← fixedNumber? 2 1 12 (← after? '-' rest)
  let (_, rest) ← fixedNumber? 2 1 (daysOfMonth year month) (← after? '-' rest)
  some rest

/-- What follows the hour and the minute. -/
def hourMinute? (word : List Char) : Option (List Char) := do
  let (_, rest) ← fixedNumber? 2 0 23 word
  let (_, rest) ← fixedNumber? 2 0 59 (← after? ':' rest)
  some rest

/-- What follows a time of day. -/
def time? (word : List Char) : Option (List Char) := do
  let (_, rest) ← fixedNumber? 2 0 60 (← after? ':' (← hourMinute? word))
  match rest with
  | '.' :: c :: rest =>
    if c.isDigit then some (rest.dropWhile Char.isDigit) else none
  | rest => some rest

/-- An offset from Universal Time, or none at all, is all that is left. -/
def isOffset : List Char → Bool
  | [] => true
  | ['Z'] => true
  | ['z'] => true
  | '+' :: rest => hourMinute? rest == some []
  | '-' :: rest => hourMinute? rest == some []
  | _ => false

/-- The spelling is that of a date, of a time of day, or of both. -/
def isMoment (word : List Char) : Bool :=
  match date? word with
  | some [] => true
  | some (c :: rest) =>
    if c = 'T' ∨ c = 't' ∨ c = ' ' then (time? rest).any isOffset else false
  | none => time? word == some []

/-- The value of a word. -/
def scalar? (word : List Char) : Option Value :=
  if word == "true".toList then some (.flag true)
  else if word == "false".toList then some (.flag false)
  else if isMoment word then some (.moment (String.ofList word))
  else
    match integer? word with
    | some number => some (.integer number)
    | none => if isDecimal word then some (.decimal (String.ofList word)) else none

/-- A word at the front of the characters. Between a date and a time of day there may be a blank,
which then belongs to the word. -/
def word (chars : List Char) : List Char × List Char :=
  let (first, rest) := chars.span isWordChar
  match rest with
  | ' ' :: c :: more =>
    if c.isDigit && date? first == some [] then
      let (second, rest) := (c :: more).span isWordChar
      (first ++ ' ' :: second, rest)
    else (first, rest)
  | _ => (first, rest)

end Conformance.Toml
