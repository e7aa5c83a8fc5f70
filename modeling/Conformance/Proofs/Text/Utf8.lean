import Mathlib.Data.String.Basic

/-!
# Well-formed UTF-8

A character is written in one to four bytes: a byte that says how many there are, and tail bytes.
Bytes that spend more of them on a character than it needs, that stand for a surrogate or for a
number beyond the characters, and bytes that are cut off or stand alone are malformed. The
well-formed bytes are those that encode some characters, and all others hold a defect behind a
well-formed front.
-/

namespace Conformance.Utf8

/-- A byte that goes on with a character. -/
def IsTail (byte : UInt8) : Prop :=
  0x80 ≤ byte.toNat ∧ byte.toNat ≤ 0xBF

/-- The bytes of one character. -/
inductive IsChar : List UInt8 → Prop where
  /-- A byte of the lower half. -/
  | one {a : UInt8} (low : a.toNat ≤ 0x7F) : IsChar [a]
  /-- Two bytes; what the leads `C0` and `C1` would say fits into one. -/
  | two {a b : UInt8} (lead : 0xC2 ≤ a.toNat ∧ a.toNat ≤ 0xDF) (tail : IsTail b) : IsChar [a, b]
  /-- Three bytes that are needed and stand for no surrogate. -/
  | three {a b c : UInt8} (lead : 0xE0 ≤ a.toNat ∧ a.toNat ≤ 0xEF) (tail : IsTail b)
    (tail' : IsTail c) (needed : a.toNat = 0xE0 → 0xA0 ≤ b.toNat)
    (plain : a.toNat = 0xED → b.toNat ≤ 0x9F) : IsChar [a, b, c]
  /-- Four bytes that are needed and stand for nothing beyond the characters. -/
  | four {a b c d : UInt8} (lead : 0xF0 ≤ a.toNat ∧ a.toNat ≤ 0xF4) (tail : IsTail b)
    (tail' : IsTail c) (tail'' : IsTail d) (needed : a.toNat = 0xF0 → 0x90 ≤ b.toNat)
    (inside : a.toNat = 0xF4 → b.toNat ≤ 0x8F) : IsChar [a, b, c, d]

/-- The bytes of characters, one after the other. -/
inductive WellFormed : List UInt8 → Prop where
  /-- No character. -/
  | nil : WellFormed []
  /-- A character and others. -/
  | cons {char rest : List UInt8} (first : IsChar char) (others : WellFormed rest) :
    WellFormed (char ++ rest)

/-! ## Characters -/

/-- The number of tail bytes that a lead asks for. -/
def tailCount (lead : UInt8) : Nat :=
  if lead.toNat ≤ 0x7F then 0
  else if lead.toNat ≤ 0xDF then 1
  else if lead.toNat ≤ 0xEF then 2
  else 3

/-- A number of a character that has its bytes as digits. -/
theorem exists_char {number : Nat} (valid : number.isValidChar) :
    ∃ c : Char, c.val.toNat = number :=
  ⟨Char.ofNatAux number valid, rfl⟩

/-- A character is encoded in bytes of one character. -/
theorem isChar_encode (c : Char) : IsChar (String.utf8EncodeChar c) := by
  have bound : c.val.toNat < 0xD800 ∨ 0xDFFF < c.val.toNat ∧ c.val.toNat < 0x110000 := c.valid
  unfold String.utf8EncodeChar
  generalize c.val.toNat = number at bound
  dsimp only
  split_ifs with one two three
  · apply IsChar.one
    simp only [UInt8.toNat_ofNat']
    omega
  · apply IsChar.two <;> simp only [IsTail, UInt8.toNat_ofNat'] <;> omega
  · apply IsChar.three <;> simp only [IsTail, UInt8.toNat_ofNat'] <;> omega
  · apply IsChar.four <;> simp only [IsTail, UInt8.toNat_ofNat'] <;> omega

/-- The bytes of one character encode it. -/
theorem IsChar.exists_encode {bytes : List UInt8} (char : IsChar bytes) :
    ∃ c : Char, String.utf8EncodeChar c = bytes := by
  cases char with
  | @one a low =>
    have valid : a.toNat.isValidChar := .inl (by omega)
    obtain ⟨c, number⟩ := exists_char valid
    refine ⟨c, ?_⟩
    unfold String.utf8EncodeChar
    dsimp only
    rw [number, if_pos low, UInt8.ofNat_toNat]
  | @two a b lead tail =>
    unfold IsTail at tail
    have valid : ((a.toNat - 0xC0) * 64 + (b.toNat - 0x80)).isValidChar := .inl (by omega)
    obtain ⟨c, number⟩ := exists_char valid
    refine ⟨c, ?_⟩
    unfold String.utf8EncodeChar
    dsimp only
    rw [number, if_neg (by omega), if_pos (by omega)]
    simp only [List.cons.injEq, UInt8.ofNat_eq_iff_mod_eq_toNat, and_true]
    omega
  | @three a b c lead tail tail' needed plain =>
    unfold IsTail at tail tail'
    have valid : ((a.toNat - 0xE0) * 4096 + (b.toNat - 0x80) * 64 +
        (c.toNat - 0x80)).isValidChar := by
      by_cases low : a.toNat < 0xED ∨ a.toNat = 0xED
      · left
        omega
      · right
        omega
    obtain ⟨char, number⟩ := exists_char valid
    refine ⟨char, ?_⟩
    unfold String.utf8EncodeChar
    dsimp only
    rw [number, if_neg (by omega), if_neg (by omega), if_pos (by omega)]
    simp only [List.cons.injEq, UInt8.ofNat_eq_iff_mod_eq_toNat, and_true]
    omega
  | @four a b c d lead tail tail' tail'' needed inside =>
    unfold IsTail at tail tail' tail''
    have valid : ((a.toNat - 0xF0) * 262144 + (b.toNat - 0x80) * 4096 + (c.toNat - 0x80) * 64 +
        (d.toNat - 0x80)).isValidChar := by
      right
      omega
    obtain ⟨char, number⟩ := exists_char valid
    refine ⟨char, ?_⟩
    unfold String.utf8EncodeChar
    dsimp only
    rw [number, if_neg (by omega), if_neg (by omega), if_neg (by omega)]
    simp only [List.cons.injEq, UInt8.ofNat_eq_iff_mod_eq_toNat, and_true]
    omega

/-- Well-formed bytes are those that encode some characters. -/
theorem wellFormed_iff {bytes : List UInt8} :
    WellFormed bytes ↔ ∃ chars : List Char, chars.flatMap String.utf8EncodeChar = bytes := by
  constructor
  · intro formed
    induction formed with
    | nil => exact ⟨[], rfl⟩
    | cons first others ih =>
      obtain ⟨c, encoded⟩ := first.exists_encode
      obtain ⟨chars, rest⟩ := ih
      exact ⟨c :: chars, by rw [List.flatMap_cons, encoded, rest]⟩
  · rintro ⟨chars, rfl⟩
    induction chars with
    | nil => exact .nil
    | cons c chars ih =>
      rw [List.flatMap_cons]
      exact .cons (isChar_encode c) ih

/-! ## Defects -/

/-- What stands where a character is due and is none. -/
inductive Defect : List UInt8 → Prop where
  /-- A tail byte has no lead. -/
  | stray {a : UInt8} {rest : List UInt8} (tail : IsTail a) : Defect (a :: rest)
  /-- Two bytes are spent on a character that needs one. -/
  | overlongTwo {a : UInt8} {rest : List UInt8} (lead : a.toNat = 0xC0 ∨ a.toNat = 0xC1) :
    Defect (a :: rest)
  /-- Three bytes are spent on a character that needs fewer. -/
  | overlongThree {a b : UInt8} {rest : List UInt8} (lead : a.toNat = 0xE0) (tail : IsTail b)
    (spent : b.toNat < 0xA0) : Defect (a :: b :: rest)
  /-- Four bytes are spent on a character that needs fewer. -/
  | overlongFour {a b : UInt8} {rest : List UInt8} (lead : a.toNat = 0xF0) (tail : IsTail b)
    (spent : b.toNat < 0x90) : Defect (a :: b :: rest)
  /-- The bytes of a surrogate. -/
  | surrogate {a b : UInt8} {rest : List UInt8} (lead : a.toNat = 0xED) (tail : IsTail b)
    (high : 0x9F < b.toNat) : Defect (a :: b :: rest)
  /-- The bytes of a number beyond the characters. -/
  | beyond {a b : UInt8} {rest : List UInt8} (lead : a.toNat = 0xF4) (tail : IsTail b)
    (high : 0x8F < b.toNat) : Defect (a :: b :: rest)
  /-- No lead is that great. -/
  | beyondLead {a : UInt8} {rest : List UInt8} (high : 0xF4 < a.toNat) : Defect (a :: rest)
  /-- A lead is followed by fewer tail bytes than it asks for. -/
  | truncated {a : UInt8} {trail rest : List UInt8} (lead : 0xC2 ≤ a.toNat ∧ a.toNat ≤ 0xF4)
    (tailed : ∀ b ∈ trail, IsTail b) (short : trail.length < tailCount a)
    (ends : ∀ b ∈ rest.head?, ¬IsTail b) : Defect (a :: trail ++ rest)

/-- A second byte is none that makes too much or too little of its lead. -/
structure Fits (lead second : UInt8) : Prop where
  /-- Three bytes are needed. -/
  neededThree : lead.toNat = 0xE0 → 0xA0 ≤ second.toNat
  /-- There is no surrogate. -/
  plain : lead.toNat = 0xED → second.toNat ≤ 0x9F
  /-- Four bytes are needed. -/
  neededFour : lead.toNat = 0xF0 → 0x90 ≤ second.toNat
  /-- The number is one of a character. -/
  inside : lead.toNat = 0xF4 → second.toNat ≤ 0x8F

/-- A byte that begins a character, and what goes on with it. -/
structure Leads (a : UInt8) (trail : List UInt8) : Prop where
  /-- The byte leads alone or with others. -/
  lead : a.toNat ≤ 0x7F ∨ 0xC2 ≤ a.toNat ∧ a.toNat ≤ 0xF4
  /-- There are as many tail bytes as it asks for. -/
  length : trail.length = tailCount a
  /-- They are tail bytes. -/
  tailed : ∀ b ∈ trail, IsTail b
  /-- The first of them fits. -/
  fits : ∀ b ∈ trail.head?, Fits a b

/-- A character is a lead with what goes on with it. -/
theorem IsChar.exists_leads {char : List UInt8} (is : IsChar char) :
    ∃ a trail, char = a :: trail ∧ Leads a trail := by
  cases is with
  | @one a low =>
    have length : 0 = tailCount a := (if_pos low).symm
    exact ⟨a, [], rfl, .inl low, length, nofun, nofun⟩
  | @two a b lead tail =>
    have length : 1 = tailCount a := by
      rw [tailCount, if_neg (by omega), if_pos (by omega)]
    have fits : Fits a b := by constructor <;> omega
    exact ⟨a, [b], rfl, .inr (by omega), length, by simpa using tail, by simpa using fits⟩
  | @three a b c lead tail tail' needed plain =>
    have length : 2 = tailCount a := by
      rw [tailCount, if_neg (by omega), if_neg (by omega), if_pos (by omega)]
    have fits : Fits a b := by constructor <;> omega
    exact ⟨a, [b, c], rfl, .inr (by omega), length, by simpa using ⟨tail, tail'⟩,
      by simpa using fits⟩
  | @four a b c d lead tail tail' tail'' needed inside =>
    have length : 3 = tailCount a := by
      rw [tailCount, if_neg (by omega), if_neg (by omega), if_neg (by omega)]
    have fits : Fits a b := by constructor <;> omega
    exact ⟨a, [b, c, d], rfl, .inr (by omega), length, by simpa using ⟨tail, tail', tail''⟩,
      by simpa using fits⟩

/-- A lead with what goes on with it is a character. -/
theorem Leads.isChar {a : UInt8} {trail : List UInt8} (leads : Leads a trail) :
    IsChar (a :: trail) := by
  obtain ⟨lead, length, tailed, fits⟩ := leads
  unfold tailCount at length
  by_cases one : a.toNat ≤ 0x7F
  · rw [if_pos one, List.length_eq_zero_iff] at length
    subst length
    exact .one one
  rw [if_neg one] at length
  by_cases two : a.toNat ≤ 0xDF
  · rw [if_pos two, List.length_eq_one_iff] at length
    obtain ⟨b, rfl⟩ := length
    exact .two (by omega) (tailed b (by simp))
  rw [if_neg two] at length
  by_cases three : a.toNat ≤ 0xEF
  · rw [if_pos three, List.length_eq_two] at length
    obtain ⟨b, c, rfl⟩ := length
    have second : Fits a b := fits b rfl
    exact .three (by omega) (tailed b (by simp)) (tailed c (by simp)) second.neededThree
      second.plain
  · rw [if_neg three, List.length_eq_three] at length
    obtain ⟨b, c, d, rfl⟩ := length
    have second : Fits a b := fits b rfl
    exact .four (by omega) (tailed b (by simp)) (tailed c (by simp)) (tailed d (by simp))
      second.neededFour second.inside

/-- Where the first character ends is seen from its lead. -/
theorem IsChar.append_inj {char char' rest rest' : List UInt8} (is : IsChar char)
    (is' : IsChar char') (same : char ++ rest = char' ++ rest') : char = char' ∧ rest = rest' := by
  obtain ⟨a, trail, rfl, leads⟩ := is.exists_leads
  obtain ⟨a', trail', rfl, leads'⟩ := is'.exists_leads
  have lead : a = a' := (List.cons.inj same).1
  subst lead
  have length : trail.length = trail'.length := leads.length.trans leads'.length.symm
  exact List.append_inj same (congrArg (· + 1) length)

/-- Where a character stands there is no defect, since a lead fits the first of its tail bytes. -/
theorem IsChar.not_defect {char rest : List UInt8} (is : IsChar char) :
    ¬Defect (char ++ rest) := by
  intro defect
  obtain ⟨a, trail, rfl, lead, length, tailed, fits⟩ := is.exists_leads
  have second {b : UInt8} {others : List UInt8} (more : 0x7F < a.toNat)
      (same : trail ++ rest = b :: others) : Fits a b := by
    apply fits
    cases trail with
    | nil =>
      have alone : tailCount a = 0 := length.symm
      unfold tailCount at alone
      split_ifs at alone
      omega
    | cons c trail => exact (List.cons.inj same).1 ▸ rfl
  generalize same : a :: trail ++ rest = bytes at defect
  cases defect with
  | stray tail =>
    obtain ⟨rfl, -⟩ := List.cons.inj same
    unfold IsTail at tail
    omega
  | overlongTwo code =>
    obtain ⟨rfl, -⟩ := List.cons.inj same
    omega
  | overlongThree code tail spent =>
    obtain ⟨rfl, others⟩ := List.cons.inj same
    have := (second (by omega) others).neededThree code
    omega
  | overlongFour code tail spent =>
    obtain ⟨rfl, others⟩ := List.cons.inj same
    have := (second (by omega) others).neededFour code
    omega
  | surrogate code tail high =>
    obtain ⟨rfl, others⟩ := List.cons.inj same
    have := (second (by omega) others).plain code
    omega
  | beyond code tail high =>
    obtain ⟨rfl, others⟩ := List.cons.inj same
    have := (second (by omega) others).inside code
    omega
  | beyondLead high =>
    obtain ⟨rfl, -⟩ := List.cons.inj same
    omega
  | @truncated a' trail' rest' code tailed' short ends =>
    obtain ⟨rfl, others⟩ := List.cons.inj same
    rw [← length] at short
    obtain ⟨more, rfl, rfl⟩ | ⟨more, rfl, rfl⟩ := List.append_eq_append_iff.1 others
    · rw [List.length_append] at short
      omega
    · cases more with
      | nil => simp at short
      | cons b more => exact ends b rfl (tailed b (by simp))

/-- Tail bytes as many as wanted come first, or there are fewer before another byte or the end. -/
theorem exists_tails (wanted : Nat) (bytes : List UInt8) : ∃ trail rest, bytes = trail ++ rest ∧
    (∀ b ∈ trail, IsTail b) ∧
      (trail.length = wanted ∨ trail.length < wanted ∧ ∀ b ∈ rest.head?, ¬IsTail b) := by
  induction wanted generalizing bytes with
  | zero => exact ⟨[], bytes, rfl, nofun, .inl rfl⟩
  | succ wanted ih =>
    cases bytes with
    | nil => exact ⟨[], [], rfl, nofun, .inr ⟨Nat.succ_pos _, nofun⟩⟩
    | cons b bytes =>
      by_cases tail : IsTail b
      · obtain ⟨trail, rest, rfl, tailed, counted⟩ := ih bytes
        refine ⟨b :: trail, rest, rfl, List.forall_mem_cons.2 ⟨tail, tailed⟩, ?_⟩
        simpa using counted
      · exact ⟨[], b :: bytes, rfl, nofun, .inr ⟨Nat.succ_pos _, by simpa using tail⟩⟩

/-- A lead with all its tail bytes begins a character, or the second byte does not fit. -/
theorem isChar_or_defect_of_tails {a : UInt8} {trail : List UInt8}
    (lead : 0xC2 ≤ a.toNat ∧ a.toNat ≤ 0xF4) (length : trail.length = tailCount a)
    (tailed : ∀ b ∈ trail, IsTail b) (rest : List UInt8) :
    IsChar (a :: trail) ∨ Defect (a :: trail ++ rest) := by
  cases trail with
  | nil =>
    have leads : Leads a [] := ⟨.inr lead, length, tailed, nofun⟩
    exact .inl leads.isChar
  | cons b trail =>
    have tail : IsTail b := tailed b List.mem_cons_self
    by_cases spent : a.toNat = 0xE0 ∧ b.toNat < 0xA0
    · exact .inr (.overlongThree spent.1 tail spent.2)
    by_cases spent' : a.toNat = 0xF0 ∧ b.toNat < 0x90
    · exact .inr (.overlongFour spent'.1 tail spent'.2)
    by_cases surrogate : a.toNat = 0xED ∧ 0x9F < b.toNat
    · exact .inr (.surrogate surrogate.1 tail surrogate.2)
    by_cases beyond : a.toNat = 0xF4 ∧ 0x8F < b.toNat
    · exact .inr (.beyond beyond.1 tail beyond.2)
    have fits : Fits a b := by constructor <;> omega
    have leads : Leads a (b :: trail) := ⟨.inr lead, length, tailed, by simpa using fits⟩
    exact .inl leads.isChar

/-- What there is begins with a character or is a defect. -/
theorem isChar_or_defect (a : UInt8) (bytes : List UInt8) :
    (∃ char rest, a :: bytes = char ++ rest ∧ IsChar char) ∨ Defect (a :: bytes) := by
  by_cases low : a.toNat ≤ 0x7F
  · exact .inl ⟨[a], bytes, rfl, .one low⟩
  by_cases tail : IsTail a
  · exact .inr (.stray tail)
  by_cases overlong : a.toNat = 0xC0 ∨ a.toNat = 0xC1
  · exact .inr (.overlongTwo overlong)
  by_cases high : 0xF4 < a.toNat
  · exact .inr (.beyondLead high)
  have lead : 0xC2 ≤ a.toNat ∧ a.toNat ≤ 0xF4 := by
    unfold IsTail at tail
    omega
  obtain ⟨trail, rest, rfl, tailed, length | ⟨short, ends⟩⟩ := exists_tails (tailCount a) bytes
  · rcases isChar_or_defect_of_tails lead length tailed rest with is | defect
    · exact .inl ⟨a :: trail, rest, rfl, is⟩
    · exact .inr defect
  · exact .inr (.truncated lead tailed short ends)

/-- Bytes with a defect in front are not well-formed. -/
theorem Defect.not_wellFormed {bytes : List UInt8} (defect : Defect bytes) :
    ¬WellFormed bytes := by
  intro formed
  cases formed with
  | nil => cases defect
  | cons first others => exact first.not_defect defect

/-- A character in front does not change whether bytes are well-formed. -/
theorem IsChar.wellFormed_append_iff {char rest : List UInt8} (is : IsChar char) :
    WellFormed (char ++ rest) ↔ WellFormed rest := by
  constructor
  · intro formed
    generalize same : char ++ rest = bytes at formed
    cases formed with
    | nil =>
      obtain ⟨a, trail, rfl, -⟩ := is.exists_leads
      cases same
    | cons first others =>
      obtain ⟨-, rfl⟩ := is.append_inj first same
      exact others
  · exact .cons is

/-- Bytes hold a defect behind a well-formed front. -/
def Broken (bytes : List UInt8) : Prop :=
  ∃ front rest, bytes = front ++ rest ∧ WellFormed front ∧ Defect rest

/-- Bytes behind a character that are broken are broken with it. -/
theorem Broken.append {char rest : List UInt8} (broken : Broken rest) (is : IsChar char) :
    Broken (char ++ rest) := by
  obtain ⟨front, behind, rfl, formed, defect⟩ := broken
  exact ⟨char ++ front, behind, (List.append_assoc char front behind).symm, .cons is formed, defect⟩

/-- The bytes that are not well-formed are the broken ones: one character after the other is taken
from the front, until there is none. -/
theorem not_wellFormed_iff {bytes : List UInt8} : ¬WellFormed bytes ↔ Broken bytes := by
  constructor
  · intro malformed
    induction counted : bytes.length using Nat.strong_induction_on generalizing bytes with
    | _ number ih =>
      cases bytes with
      | nil => exact absurd .nil malformed
      | cons a bytes =>
        rcases isChar_or_defect a bytes with ⟨char, rest, same, is⟩ | defect
        · have shorter : rest.length < number := by
            obtain ⟨b, trail, rfl, -⟩ := is.exists_leads
            rw [← counted, same, List.length_append, List.length_cons]
            omega
          rw [same] at malformed ⊢
          have others : ¬WellFormed rest := fun formed => malformed (.cons is formed)
          exact (ih _ shorter others rfl).append is
        · exact ⟨[], a :: bytes, rfl, .nil, defect⟩
  · rintro ⟨front, rest, rfl, formed, defect⟩
    induction formed with
    | nil => exact defect.not_wellFormed
    | cons first others ih =>
      rw [List.append_assoc, first.wellFormed_append_iff]
      exact ih

end Conformance.Utf8
