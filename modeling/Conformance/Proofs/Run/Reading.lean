import Conformance.Proofs.Files.Tree
import Conformance.Proofs.Run.Answer
import Conformance.Proofs.Run.Source
import Conformance.Proofs.Text.ByteOrder
import Conformance.Proofs.Text.Padding
import Conformance.Proofs.Text.Utf8

/-!
# Reading a source file in UTF-8

A source file in UTF-8 is read just when its bytes encode some characters, and it is read as these
characters: none is dropped, a byte order mark at the front included, and none is put in the place
of bytes that encode nothing. All other bytes are malformed.
-/

namespace Conformance

/-! ## Labels -/

namespace Encoding

/-- The labels of UTF-8, in small letters. -/
def utf8Labels : List String :=
  ["unicode-1-1-utf-8", "unicode11utf8", "unicode20utf8", "utf-8", "utf8", "x-unicode20utf8"]

/-- A blank is no capital letter. -/
theorem toLower_of_isBlank {c : Char} (blank : Text.isBlank c = true) : c.toLower = c := by
  unfold Char.toLower
  apply dif_neg
  rintro ⟨least, most⟩
  have atLeast : 65 ≤ c.toNat := UInt32.le_iff_toNat_le.1 least
  have atMost : c.toNat ≤ 90 := UInt32.le_iff_toNat_le.1 most
  simp only [Text.isBlank, Bool.or_eq_true, Bool.and_eq_true, decide_eq_true_eq,
    beq_iff_eq] at blank
  omega

/-- A label of UTF-8 has no blanks. -/
theorem solid_of_mem_utf8Labels {label : String} (known : label.toLower ∈ utf8Labels) :
    ∀ c ∈ label.toList, Text.isBlank c = false := by
  have solid : ∀ known ∈ utf8Labels, known.toList.any Text.isBlank = false := by decide
  intro c member
  rw [Bool.eq_false_iff]
  intro blank
  have lowered : c ∈ label.toLower.toList := by
    change c ∈ (label.map Char.toLower).toList
    rw [String.toList_map]
    exact List.mem_map.2 ⟨c, member, toLower_of_isBlank blank⟩
  exact List.any_eq_false.1 (solid _ known) c lowered blank

/-- The labels of UTF-8 ask for it, in any case and with blanks around them. -/
theorem ofLabel?_of_mem_utf8Labels {label padded : String} (known : label.toLower ∈ utf8Labels)
    (padding : Text.Padded label padded) : ofLabel? padded = some .utf8 := by
  have trimmed : Text.trim padded = label :=
    padding.trim_eq.trans (Text.trim_of_solid (solid_of_mem_utf8Labels known))
  have first : labels = (.utf8, utf8Labels) :: labels.tail := rfl
  have listed : utf8Labels.contains label.toLower = true := List.contains_iff_mem.2 known
  rw [ofLabel?, trimmed]
  dsimp only
  rw [first, List.find?_cons, listed]
  rfl

/-- Bytes in UTF-8 stand for the text that they are the bytes of. -/
theorem decode_utf8_eq_some_iff {bytes : ByteArray} {text : String} :
    Encoding.utf8.decode bytes = some text ↔ Text.bytes text = bytes.data.toList := by
  change String.fromUTF8? bytes = some text ↔ text.toByteArray.data.toList = bytes.data.toList
  rw [Array.toList_inj, ← ByteArray.ext_iff]
  unfold String.fromUTF8?
  constructor
  · intro decoded
    split at decoded
    · cases decoded
      rfl
    · cases decoded
  · rintro rfl
    rw [dif_pos text.isValidUTF8]
    rfl

end Encoding

/-! ## Texts -/

/-- Bytes are well-formed when they are those of a text. -/
theorem Utf8.wellFormed_iff_exists_text {bytes : List UInt8} :
    WellFormed bytes ↔ ∃ text, Text.bytes text = bytes := by
  rw [wellFormed_iff]
  constructor
  · rintro ⟨chars, encoded⟩
    refine ⟨String.ofList chars, ?_⟩
    rw [Text.bytes_eq_flatMap, String.toList_ofList, encoded]
  · rintro ⟨text, encoded⟩
    exact ⟨text.toList, by rw [← Text.bytes_eq_flatMap, encoded]⟩

namespace SourceFile

variable {file : SourceFile} {tree : FileTree} {names : List String} {content : Content}

/-- A file in UTF-8 is read as the text that its bytes are the bytes of. -/
theorem yields_text (held : tree.resolve file.path = .ok (names, .file content))
    (small : content.size ≤ greatestSize) (labelled : Encoding.ofLabel? file.label = some .utf8)
    {text : String} (encoded : Text.bytes text = content.data.data.toList) :
    (file.read tree).Yields (.ok (.ofText file.path text)) := by
  have decoded : file.decode tree = .ok (.utf8, content.data, text) := by
    apply decode_eq_ok_iff.2
    have read := Encoding.decode_utf8_eq_some_iff.2 encoded
    exact ⟨content, content_eq_ok held small, rfl, labelled, read⟩
  have yields := file.yields_read tree
  rwa [decoded] at yields

/-- A file in UTF-8 is malformed when its bytes are not well-formed. -/
theorem yields_malformed (held : tree.resolve file.path = .ok (names, .file content))
    (small : content.size ≤ greatestSize) (labelled : Encoding.ofLabel? file.label = some .utf8)
    (malformed : ¬Utf8.WellFormed content.data.data.toList) :
    (file.read tree).Yields (.error (.malformed file.path "UTF-8")) := by
  have refused : Encoding.utf8.decode content.data = none := by
    apply Option.eq_none_iff_forall_ne_some.2
    intro text decoded
    apply malformed
    exact Utf8.wellFormed_iff_exists_text.2 ⟨text, Encoding.decode_utf8_eq_some_iff.1 decoded⟩
  have decoded : file.decode tree = .error (.malformed file.path "UTF-8") := by
    rw [SourceFile.decode, labelled]
    dsimp only
    rw [content_eq_ok held small]
    simp only [Bind.bind, Except.bind, refused]
    rfl
  have yields := file.yields_read tree
  rwa [decoded] at yields

/-- A file in UTF-8 is read as some characters just when its bytes encode them, and it is malformed
just when its bytes are not well-formed, which is when there is a defect behind a well-formed
front. -/
theorem read_utf8 {label : String} (held : tree.resolve file.path = .ok (names, .file content))
    (small : content.size ≤ greatestSize) (known : label.toLower ∈ Encoding.utf8Labels)
    (padding : Text.Padded label file.label) :
    (∀ stream, (file.read tree).Yields (.ok stream) ↔
      ∃ chars : List Char, chars.flatMap String.utf8EncodeChar = content.data.data.toList ∧
        stream = .ofText file.path (String.ofList chars)) ∧
    (∀ error, (file.read tree).Yields (.error error) ↔
      ¬Utf8.WellFormed content.data.data.toList ∧ error = .malformed file.path "UTF-8") ∧
    (¬Utf8.WellFormed content.data.data.toList ↔ Utf8.Broken content.data.data.toList) := by
  have labelled := Encoding.ofLabel?_of_mem_utf8Labels known padding
  refine ⟨fun stream => ⟨fun read => ?_, ?_⟩, fun error => ⟨fun read => ?_, ?_⟩,
    Utf8.not_wellFormed_iff⟩
  · by_cases formed : Utf8.WellFormed content.data.data.toList
    · obtain ⟨chars, encoded⟩ := Utf8.wellFormed_iff.1 formed
      have bytes : Text.bytes (String.ofList chars) = content.data.data.toList := by
        rw [Text.bytes_eq_flatMap, String.toList_ofList, encoded]
      exact ⟨chars, encoded, Except.ok.inj (read.unique (yields_text held small labelled bytes))⟩
    · cases read.unique (yields_malformed held small labelled formed)
  · rintro ⟨chars, encoded, rfl⟩
    apply yields_text held small labelled
    rw [Text.bytes_eq_flatMap, String.toList_ofList, encoded]
  · by_cases formed : Utf8.WellFormed content.data.data.toList
    · obtain ⟨text, encoded⟩ := Utf8.wellFormed_iff_exists_text.1 formed
      cases read.unique (yields_text held small labelled encoded)
    · have same := read.unique (yields_malformed held small labelled formed)
      exact ⟨formed, Except.error.inj same⟩
  · rintro ⟨malformed, rfl⟩
    exact yields_malformed held small labelled malformed

/-- A byte order mark is read as a character like the one behind it, under a label with blanks
around it, and the bytes of a surrogate are malformed. -/
theorem read_utf8_marked :
    (SourceFile.read ⟨"a", " UTF-8\n"⟩
        ⟨.directory [("a", .file (.bytes ⟨#[0xEF, 0xBB, 0xBF, 0xC3, 0xBC]⟩))], []⟩).Yields
      (.ok (.ofText "a" "\uFEFFü")) ∧
    (SourceFile.read ⟨"b", "utf8"⟩
        ⟨.directory [("b", .file (.bytes ⟨#[0x61, 0xED, 0xA0, 0x80]⟩))], []⟩).Yields
      (.error (.malformed "b" "UTF-8")) := by
  have held : FileTree.resolve
      ⟨.directory [("a", .file (.bytes ⟨#[0xEF, 0xBB, 0xBF, 0xC3, 0xBC]⟩))], []⟩ "a" =
        .ok (["a"], .file (.bytes ⟨#[0xEF, 0xBB, 0xBF, 0xC3, 0xBC]⟩)) :=
    FileTree.resolve_name rfl (by decide) (by decide) (by decide) (by decide)
  have held' : FileTree.resolve
      ⟨.directory [("b", .file (.bytes ⟨#[0x61, 0xED, 0xA0, 0x80]⟩))], []⟩ "b" =
        .ok (["b"], .file (.bytes ⟨#[0x61, 0xED, 0xA0, 0x80]⟩)) :=
    FileTree.resolve_name rfl (by decide) (by decide) (by decide) (by decide)
  have defect : Utf8.Broken [0x61, 0xED, 0xA0, 0x80] := by
    refine ⟨[0x61], [0xED, 0xA0, 0x80], rfl, .cons (.one (by decide)) .nil, ?_⟩
    exact .surrogate rfl ⟨by decide, by decide⟩ (by decide)
  constructor
  · have known : "UTF-8".toLower ∈ Encoding.utf8Labels := by decide +kernel
    have padding : Text.Padded "UTF-8" " UTF-8\n" := @Text.Padded.intro "UTF-8" " " "\n" rfl rfl
    have read := @read_utf8 ⟨"a", " UTF-8\n"⟩ _ _ _ _ held (by decide) known padding
    exact (read.1 _).2 ⟨['\uFEFF', 'ü'], by decide, rfl⟩
  · have known : "utf8".toLower ∈ Encoding.utf8Labels := by decide +kernel
    have read := @read_utf8 ⟨"b", "utf8"⟩ _ _ _ _ held' (by decide) known (.refl "utf8")
    exact (read.2.1 _).2 ⟨read.2.2.2 defect, rfl⟩

end SourceFile

end Conformance
