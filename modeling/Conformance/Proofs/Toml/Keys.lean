import Conformance.Toml.Document

/-!
# The keys of a document

Every table of a document has each key once, however deep inside a value it lies. A value is only
entered under a key that is not there yet, and a table on the path to it is put back under its own
key. So a document says at most one thing under a key.
-/

namespace Conformance.Toml

/-- Every table inside a value has each key once. -/
inductive Value.Keyed : Value → Prop
  /-- A text. -/
  | text (value : String) : Keyed (.text value)
  /-- A whole number. -/
  | integer (value : Int) : Keyed (.integer value)
  /-- A number with a fraction or an exponent. -/
  | decimal (written : String) : Keyed (.decimal written)
  /-- A moment. -/
  | moment (written : String) : Keyed (.moment written)
  /-- A flag. -/
  | flag (value : Bool) : Keyed (.flag value)
  /-- A list. -/
  | list {items : List Value} (each : ∀ item ∈ items, Keyed item) : Keyed (.list items)
  /-- A table in braces. -/
  | braces {origin : Origin} {entries : Entries} (once : (entries.map Prod.fst).Nodup)
    (each : ∀ entry ∈ entries, Keyed entry.2) : Keyed (.braces origin entries)
  /-- A table on lines of its own. -/
  | table {origin : Origin} {entries : Entries} (once : (entries.map Prod.fst).Nodup)
    (each : ∀ entry ∈ entries, Keyed entry.2) : Keyed (.table origin entries)
  /-- The tables that share a header. -/
  | tables {items : List Entries} (once : ∀ entries ∈ items, (entries.map Prod.fst).Nodup)
    (each : ∀ entries ∈ items, ∀ entry ∈ entries, Keyed entry.2) : Keyed (.tables items)

/-- Entries have each key once, and so have all tables inside them. -/
structure Entries.Keyed (entries : Entries) : Prop where
  /-- Each key stands once. -/
  once : (entries.map Prod.fst).Nodup
  /-- The tables inside have each key once. -/
  each : ∀ entry ∈ entries, entry.2.Keyed

/-- One more table that shares the header is keyed if its entries are. -/
theorem Value.Keyed.concat {items : List Entries} {entries : Entries}
    (keyed : (Value.tables items).Keyed) (last : entries.Keyed) :
    (Value.tables (items ++ [entries])).Keyed := by
  cases keyed with
  | tables once each =>
    refine .tables (List.forall_mem_append.2 ⟨once, ?_⟩) (List.forall_mem_append.2 ⟨each, ?_⟩)
    · exact List.forall_mem_singleton.2 last.once
    · exact List.forall_mem_singleton.2 last.each

/-- All but the last of the tables that share a header are keyed if all are. -/
theorem Value.Keyed.dropLast {items : List Entries} (keyed : (Value.tables items).Keyed) :
    (Value.tables items.dropLast).Keyed := by
  cases keyed with
  | tables once each =>
    have kept := (List.dropLast_sublist items).subset
    exact .tables (fun entries found => once entries (kept found))
      fun entries found => each entries (kept found)

namespace Entries

variable {entries : Entries} {key name : String} {value : Value}

/-- No entries have each key once. -/
theorem keyed_nil : Keyed [] where
  once := .nil
  each := nofun

/-- A value found under a key is that of an entry. -/
theorem mem_of_lookup (found : entries.lookup key = some value) : (key, value) ∈ entries := by
  obtain ⟨before, after, rfl, -⟩ := List.lookup_eq_some_iff.1 found
  simp

/-- A value found under a key is keyed. -/
theorem Keyed.lookup (keyed : entries.Keyed) (found : entries.lookup key = some value) :
    value.Keyed :=
  keyed.each _ (mem_of_lookup found)

/-- An entry after setting a key is the one set or one from before. -/
theorem mem_of_mem_set {entry : String × Value} (found : entry ∈ entries.set key value) :
    entry = (key, value) ∨ entry ∈ entries := by
  induction entries with
  | nil => simpa [set] using found
  | cons head rest ih =>
    obtain ⟨name, old⟩ := head
    simp only [set] at found
    by_cases same : name = key
    · rw [if_pos same] at found
      exact (List.mem_cons.1 found).imp_right (List.mem_cons_of_mem _)
    · rw [if_neg same] at found
      rcases List.mem_cons.1 found with first | later
      · exact .inr (first ▸ List.mem_cons_self)
      · exact (ih later).imp_right (List.mem_cons_of_mem _)

/-- Setting a key keeps each key single. -/
theorem nodup_set (once : (entries.map Prod.fst).Nodup) (key : String) (value : Value) :
    ((entries.set key value).map Prod.fst).Nodup := by
  induction entries with
  | nil => simp [set]
  | cons head rest ih =>
    obtain ⟨name, old⟩ := head
    obtain ⟨absent, further⟩ := List.nodup_cons.1 once
    simp only [set]
    by_cases same : name = key
    · rw [if_pos same]
      exact List.nodup_cons.2 ⟨same ▸ absent, further⟩
    · rw [if_neg same]
      refine List.nodup_cons.2 ⟨fun again => ?_, ih further⟩
      obtain ⟨entry, found, named⟩ := List.mem_map.1 again
      rcases mem_of_mem_set found with rfl | before
      · exact same named.symm
      · exact absent (List.mem_map.2 ⟨entry, before, named⟩)

/-- Setting a key to a keyed value keeps entries keyed. -/
theorem Keyed.set (keyed : entries.Keyed) (key : String) (inner : value.Keyed) :
    (entries.set key value).Keyed where
  once := nodup_set keyed.once key value
  each entry found := by
    rcases mem_of_mem_set found with rfl | before
    · exact inner
    · exact keyed.each entry before

end Entries

/-! ## Tables -/

namespace Path

/-- A table met on a path is a keyed value if its entries are. -/
theorem keyed_value (path : Path) {table : Table} (keyed : table.entries.Keyed) :
    (path.value table).Keyed := by
  cases path with
  | header => exact .table keyed.once keyed.each
  | dotted => exact .table keyed.once keyed.each
  | braces => exact .braces keyed.once keyed.each

/-- The table behind a keyed value has keyed entries. -/
theorem keyed_of_table? (path : Path) {value : Value} {table : Table} (keyed : value.Keyed)
    (found : path.table? value = some table) : table.entries.Keyed := by
  cases keyed with
  | @table origin entries once each =>
    cases path with
    | header => exact (Option.some.inj found) ▸ ⟨once, each⟩
    | braces => cases found
    | dotted =>
      cases origin with
      | defined => cases found
      | passed => exact (Option.some.inj found) ▸ ⟨once, each⟩
      | dotted => exact (Option.some.inj found) ▸ ⟨once, each⟩
  | braces once each =>
    simp only [table?] at found
    split at found
    · exact (Option.some.inj found) ▸ ⟨once, each⟩
    · cases found
  | text | integer | decimal | moment | flag | list | tables => cases found

end Path

namespace Table

variable {table result : Table}

/-- A change of a table keeps its entries keyed. -/
def Keeps (change : Table → Option Table) : Prop :=
  ∀ table result : Table, table.entries.Keyed → change table = some result → result.entries.Keyed

/-- Changing the table at the end of a path keeps the entries of the whole keyed. -/
theorem keeps_modifyAt (path : Path) {change : Table → Option Table} (keeps : Keeps change)
    (keys : List String) : Keeps (modifyAt path change keys) := by
  induction keys with
  | nil => exact keeps
  | cons key keys ih =>
    intro table result keyed changed
    simp only [modifyAt] at changed
    split at changed
    · obtain ⟨inner, made, changed⟩ := Option.bind_eq_some_iff.1 changed
      obtain rfl := Option.some.inj changed
      exact keyed.set key (path.keyed_value (ih _ _ Entries.keyed_nil made))
    · next items found =>
      split at changed
      · cases changed
      · obtain ⟨last, lastFound, changed⟩ := Option.bind_eq_some_iff.1 changed
        obtain ⟨inner, made, changed⟩ := Option.bind_eq_some_iff.1 changed
        obtain rfl := Option.some.inj changed
        have before := keyed.lookup found
        cases before with
        | tables once each =>
          have member : last ∈ items := List.mem_of_getLast? lastFound
          have keyedInner := ih _ _ ⟨once last member, each last member⟩ made
          exact keyed.set key ((keyed.lookup found).dropLast.concat keyedInner)
    · next value _ found =>
      obtain ⟨behind, behindFound, changed⟩ := Option.bind_eq_some_iff.1 changed
      obtain ⟨inner, made, changed⟩ := Option.bind_eq_some_iff.1 changed
      obtain rfl := Option.some.inj changed
      have keyedBehind := path.keyed_of_table? (keyed.lookup found) behindFound
      exact keyed.set key (path.keyed_value (ih _ _ keyedBehind made))

/-- Entering a keyed value under a key keeps a table keyed. -/
theorem keeps_enterAt (path : Path) (keys : List String) (key : String) {value : Value}
    (keyed : value.Keyed) : Keeps (enterAt path keys key value) := by
  refine keeps_modifyAt path (fun table result before changed => ?_) keys
  split at changed
  · cases changed
  · unfold enter at changed
    split at changed
    · cases changed
    · obtain rfl := Option.some.inj changed
      exact before.set key keyed

/-- Changes one after the other keep the entries keyed if each of them does. -/
theorem keeps_foldlM {α : Type} (change : α → Table → Option Table) {parts : List α}
    (keeps : ∀ part ∈ parts, Keeps (change part)) :
    Keeps fun table => parts.foldlM (fun table part => change part table) table := by
  induction parts with
  | nil =>
    intro table result before changed
    exact (Option.some.inj changed) ▸ before
  | cons part parts ih =>
    intro table result before changed
    obtain ⟨first, rest⟩ := List.forall_mem_cons.1 keeps
    obtain ⟨middle, here, changed⟩ := Option.bind_eq_some_iff.1 changed
    exact ih rest middle result (first table middle before here) changed

/-- Entering keyed values one after the other keeps a table keyed. -/
theorem keeps_enterAll (path : Path) {entries : List Entry}
    (keyed : ∀ entry ∈ entries, entry.value.Keyed) : Keeps (enterAll path entries) :=
  keeps_foldlM (fun entry : Entry => enterAt path entry.path entry.key entry.value)
    fun entry found => keeps_enterAt path entry.path entry.key (keyed entry found)

end Table

/-! ## Values -/

/-- A word is no table. -/
theorem keyed_of_scalar? {word : List Char} {value : Value} (read : scalar? word = some value) :
    value.Keyed := by
  unfold scalar? at read
  split at read
  · exact (Option.some.inj read) ▸ .flag true
  split at read
  · exact (Option.some.inj read) ▸ .flag false
  split at read
  · exact (Option.some.inj read) ▸ .moment _
  split at read
  · exact (Option.some.inj read) ▸ .integer _
  split at read
  · exact (Option.some.inj read) ▸ .decimal _
  · cases read

/-- A table in braces whose entries are keyed is keyed. -/
theorem keyed_of_enterAll {entries : List Entry} {left rest : List Char} {value : Value}
    (keyed : ∀ entry ∈ entries, entry.value.Keyed)
    (found : (Table.enterAll .braces entries ⟨.defined, []⟩).bind
      (fun table => some (Value.braces .defined table.entries, left)) = some (value, rest)) :
    value.Keyed := by
  obtain ⟨table, entered, found⟩ := Option.bind_eq_some_iff.1 found
  have inner := Table.keeps_enterAll .braces keyed _ table Entries.keyed_nil entered
  exact (Prod.mk.inj (Option.some.inj found)).1 ▸ .braces inner.once inner.each

/-- A value, the items of a list and the entries of a table in braces that are read are keyed. -/
theorem keyed_of_value (steps : Nat) :
    (∀ room chars read rest, value steps room chars = some (read, rest) → read.Keyed) ∧
      (∀ room chars read rest, items steps room chars = some (read, rest) →
        ∀ item ∈ read, item.Keyed) ∧
      ∀ room chars read rest, fields steps room chars = some (read, rest) →
        ∀ entry ∈ read, entry.value.Keyed := by
  induction steps with
  | zero => exact ⟨nofun, nofun, nofun⟩
  | succ steps ih =>
    obtain ⟨valueStep, itemsStep, fieldsStep⟩ := ih
    refine ⟨fun room chars read rest found => ?_, fun room chars read rest found => ?_,
      fun room chars read rest found => ?_⟩
    · unfold value at found
      split at found
      · obtain ⟨⟨text, left⟩, -, same⟩ := Option.map_eq_some_iff.1 found
        exact (Prod.mk.inj same).1 ▸ .text text
      · obtain ⟨⟨text, left⟩, -, same⟩ := Option.map_eq_some_iff.1 found
        exact (Prod.mk.inj same).1 ▸ .text text
      · split at found
        · cases found
        · split at found
          · exact (Prod.mk.inj (Option.some.inj found)).1 ▸ .list nofun
          · obtain ⟨⟨list, left⟩, listRead, same⟩ := Option.map_eq_some_iff.1 found
            exact (Prod.mk.inj same).1 ▸ .list (itemsStep _ _ _ _ listRead)
      · split at found
        · cases found
        · simp only at found
          split at found
          · obtain ⟨⟨entries, left⟩, empty, found⟩ := Option.bind_eq_some_iff.1 found
            obtain rfl := (Prod.mk.inj (Option.some.inj empty)).1
            exact keyed_of_enterAll (List.forall_mem_nil _) found
          · obtain ⟨⟨entries, left⟩, entriesRead, found⟩ := Option.bind_eq_some_iff.1 found
            exact keyed_of_enterAll (fieldsStep _ _ _ _ entriesRead) found
      · obtain ⟨scalar, scalarRead, same⟩ := Option.map_eq_some_iff.1 found
        exact (Prod.mk.inj same).1 ▸ keyed_of_scalar? scalarRead
    · unfold items at found
      obtain ⟨⟨item, left⟩, itemRead, found⟩ := Option.bind_eq_some_iff.1 found
      have keyedItem := valueStep _ _ _ _ itemRead
      have alone : ∀ other ∈ [item], other.Keyed := fun other single =>
        List.mem_singleton.1 single ▸ keyedItem
      simp only at found
      split at found
      · exact (Prod.mk.inj (Option.some.inj found)).1 ▸ alone
      · split at found
        · exact (Prod.mk.inj (Option.some.inj found)).1 ▸ alone
        · obtain ⟨⟨more, last⟩, moreRead, found⟩ := Option.bind_eq_some_iff.1 found
          refine (Prod.mk.inj (Option.some.inj found)).1 ▸ List.forall_mem_cons.2 ⟨keyedItem, ?_⟩
          exact itemsStep _ _ _ _ moreRead
      · cases found
    · unfold fields at found
      obtain ⟨⟨⟨path, name⟩, left⟩, -, found⟩ := Option.bind_eq_some_iff.1 found
      simp only at found
      split at found
      · obtain ⟨⟨inner, left⟩, innerRead, found⟩ := Option.bind_eq_some_iff.1 found
        have keyedInner := valueStep _ _ _ _ innerRead
        simp only at found
        split at found
        · refine (Prod.mk.inj (Option.some.inj found)).1 ▸ fun entry single => ?_
          exact List.mem_singleton.1 single ▸ keyedInner
        · obtain ⟨⟨more, last⟩, moreRead, found⟩ := Option.bind_eq_some_iff.1 found
          refine (Prod.mk.inj (Option.some.inj found)).1 ▸ List.forall_mem_cons.2 ⟨keyedInner, ?_⟩
          exact fieldsStep _ _ _ _ moreRead
        · cases found
      · cases found

/-! ## Documents -/

/-- The value of an entry is keyed. -/
theorem keyed_of_entry {chars rest : List Char} {read : Entry}
    (found : entry chars = some (read, rest)) : read.value.Keyed := by
  unfold entry at found
  obtain ⟨⟨⟨path, name⟩, left⟩, -, found⟩ := Option.bind_eq_some_iff.1 found
  simp only at found
  split at found
  · obtain ⟨⟨inner, left⟩, innerRead, found⟩ := Option.bind_eq_some_iff.1 found
    obtain ⟨last, -, same⟩ := Option.map_eq_some_iff.1 found
    exact (Prod.mk.inj same).1 ▸ (keyed_of_value _).1 _ _ _ _ innerRead
  · cases found

/-- The values in a block are keyed. -/
def Block.Keyed (block : Block) : Prop :=
  ∀ entry ∈ block.entries, entry.value.Keyed

/-- Blocks that are read are keyed if those before them are. -/
theorem keyed_of_blocks {steps : Nat} {done read : List Block} {chars : List Char}
    (keyed : ∀ block ∈ done, block.Keyed) (found : blocks steps done chars = some read) :
    ∀ block ∈ read, block.Keyed := by
  induction steps generalizing done chars with
  | zero => cases found
  | succ steps ih =>
    unfold blocks at found
    split at found
    · exact (Option.some.inj found) ▸ keyed
    · obtain ⟨⟨header, left⟩, -, found⟩ := Option.bind_eq_some_iff.1 found
      have started : Block.Keyed ⟨header, []⟩ := List.forall_mem_nil _
      exact ih (List.forall_mem_cons.2 ⟨started, keyed⟩) found
    · obtain ⟨left, -, found⟩ := Option.bind_eq_some_iff.1 found
      exact ih keyed found
    · exact ih keyed found
    · obtain ⟨left, -, found⟩ := Option.bind_eq_some_iff.1 found
      exact ih keyed found
    · obtain ⟨⟨line, left⟩, lineRead, found⟩ := Option.bind_eq_some_iff.1 found
      simp only at found
      split at found
      · cases found
      · obtain ⟨latest, before⟩ := List.forall_mem_cons.1 keyed
        refine ih (List.forall_mem_cons.2 ⟨?_, before⟩) found
        exact List.forall_mem_cons.2 ⟨keyed_of_entry lineRead, latest⟩

/-- Putting a keyed block into a document keeps its entries keyed. -/
theorem Table.keeps_place {block : Block} (keyed : block.Keyed) : Keeps (place block) := by
  have filling : Keeps (enterAll .dotted block.entries.reverse) :=
    keeps_enterAll .dotted fun entry found => keyed entry (List.mem_reverse.1 found)
  intro document result before placed
  unfold place at placed
  split at placed
  · exact filling document result before placed
  · next path key header =>
    refine keeps_modifyAt .header (fun parent changed keyedParent made => ?_) path document result
      before placed
    obtain ⟨start, keyedStart, made⟩ : ∃ start : Entries, start.Keyed ∧
        (enterAll .dotted block.entries.reverse ⟨.defined, start⟩).bind (fun table =>
          some { parent with entries := parent.entries.set key (.table .defined table.entries) }) =
            some changed := by
      simp only at made
      split at made
      · exact ⟨[], Entries.keyed_nil, made⟩
      · next entries found =>
        exact ⟨entries, Path.keyed_of_table? .header (keyedParent.lookup found) rfl, made⟩
      · cases made
    obtain ⟨inner, filled, same⟩ := Option.bind_eq_some_iff.1 made
    have keyedInner := filling _ inner keyedStart filled
    exact (Option.some.inj same) ▸ keyedParent.set key (.table keyedInner.once keyedInner.each)
  · next path key header =>
    refine keeps_modifyAt .header (fun parent changed keyedParent made => ?_) path document result
      before placed
    obtain ⟨earlier, keyedEarlier, made⟩ : ∃ earlier, (Value.tables earlier).Keyed ∧
        (enterAll .dotted block.entries.reverse ⟨.defined, []⟩).bind (fun table =>
          some { parent with
            entries := parent.entries.set key (.tables (earlier ++ [table.entries])) }) =
              some changed := by
      simp only at made
      split at made
      · exact ⟨[], .tables (List.forall_mem_nil _) (List.forall_mem_nil _), made⟩
      · next tables found => exact ⟨tables, keyedParent.lookup found, made⟩
      · cases made
    obtain ⟨inner, filled, same⟩ := Option.bind_eq_some_iff.1 made
    have keyedInner := filling _ inner Entries.keyed_nil filled
    exact (Option.some.inj same) ▸ keyedParent.set key (keyedEarlier.concat keyedInner)

/-- Every table of a document has each key once. -/
theorem keyed_of_parse? {document : String} {entries : Entries}
    (parsed : parse? document = some entries) : entries.Keyed := by
  unfold parse? at parsed
  obtain ⟨read, blocksRead, parsed⟩ := Option.bind_eq_some_iff.1 parsed
  obtain ⟨table, placed, same⟩ := Option.bind_eq_some_iff.1 parsed
  have start : ∀ block ∈ [(⟨.none, []⟩ : Block)], block.Keyed :=
    List.forall_mem_singleton.2 (List.forall_mem_nil _)
  have keyed := keyed_of_blocks start blocksRead
  have inOrder : ∀ block ∈ read.reverse, Table.Keeps (Table.place block) := fun block found =>
    Table.keeps_place (keyed block (List.mem_reverse.1 found))
  exact (Option.some.inj same) ▸
    Table.keeps_foldlM Table.place inOrder _ table Entries.keyed_nil placed

end Conformance.Toml
