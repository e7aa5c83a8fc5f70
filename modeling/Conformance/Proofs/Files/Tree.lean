import Conformance.Files.Tree

/-!
# Files at the root

A name without slashes leads from the root to the file of that name.
-/

namespace Conformance.FileTree

variable {entries : List (String × Node)} {name : String} {content : Content}

/-- From a directory, a name leads to its entry, and on from there unless that is a link. -/
theorem follow_cons {root : Node} {names rest : List String} (links : Nat)
    (walked : root.find? names = some (.directory entries)) (plain : name ∉ ["", ".", ".."])
    (short : name.utf8ByteSize ≤ nameLimit) :
    follow root links names (name :: rest) =
      match entries.lookup name with
      | none => .error .notFound
      | some (.link target) =>
        match links with
        | 0 => .error .tooManyLinks
        | links + 1 =>
          follow root links (if Path.isAbsolute target then [] else names)
            (Path.texts target ++ rest)
      | some _ => follow root links (names ++ [name]) rest := by
  simp only [List.mem_cons, List.not_mem_nil, or_false, not_or] at plain
  obtain ⟨some, stays, climbs⟩ := plain
  have here : ¬(name = "" ∨ name = ".") := not_or.2 ⟨some, stays⟩
  rw [follow, walked]
  exact ((if_neg here).trans (if_neg climbs)).trans (if_neg (Nat.not_lt.2 short))

/-- A name leads from the root to its file. -/
theorem follow_name {links : Nat} (found : entries.lookup name = some (.file content))
    (plain : name ∉ ["", ".", ".."]) (short : name.utf8ByteSize ≤ nameLimit) :
    follow (.directory entries) links [] [name] = .ok ([name], .file content) := by
  have root : (Node.directory entries).find? [] = some (.directory entries) := rfl
  have node : (Node.directory entries).find? [name] = some (.file content) := by
    simp only [Node.find?, Node.entries, found]
  rw [follow_cons links root plain short, found, List.nil_append]
  simp only
  rw [follow, node]

/-- A name without slashes and zeros leads to the file at the root. -/
theorem resolve_name (found : entries.lookup name = some (.file content))
    (plain : name ∉ ["", ".", ".."]) (short : name.utf8ByteSize ≤ nameLimit)
    (clean : name.toList.contains '\x00' = false) (whole : Path.texts name = [name]) :
    resolve ⟨.directory entries, []⟩ name = .ok ([name], .file content) := by
  have some : name.isEmpty = false := by
    refine Bool.eq_false_iff.2 fun empty => plain ?_
    exact String.isEmpty_iff.1 empty ▸ List.mem_cons_self
  have limit : ¬pathLimit ≤ name.utf8ByteSize := by
    unfold nameLimit at short
    unfold pathLimit
    omega
  rw [resolve, if_neg (Bool.eq_false_iff.1 clean), if_neg (Bool.eq_false_iff.1 some),
    if_neg limit, whole, ite_self]
  exact follow_name found plain short

/-- A file at the root is read under its name. -/
theorem read_name (found : entries.lookup name = some (.file content))
    (plain : name ∉ ["", ".", ".."]) (short : name.utf8ByteSize ≤ nameLimit)
    (clean : name.toList.contains '\x00' = false) (whole : Path.texts name = [name]) :
    read ⟨.directory entries, []⟩ name = .ok content.data := by
  rw [read, resolve_name found plain short clean whole]
  rfl

end Conformance.FileTree
