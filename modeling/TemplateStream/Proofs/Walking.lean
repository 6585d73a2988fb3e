import Mathlib.Data.List.Lex
import Mathlib.Data.String.Basic
import TemplateStream.Proofs.Tables
import TemplateStream.Data.Reader

/-!
# Walks through a directory

The files below a directory are gone through in ascending order of their parts. That order, and
what is found in a tree of files at all, does not depend on the order in which the tree holds them.
-/

namespace TemplateStream.FileTree

/-- One list of parts comes before another as lists are ordered. -/
theorem precedes_iff {left right : List String} : precedes left right = true ↔ left ≤ right := by
  induction left generalizing right with
  | nil =>
    have least : ¬right < [] := List.not_lt_nil right
    simp [precedes, ← not_lt]
  | cons part rest ih =>
    cases right with
    | nil => simp [precedes, ← not_lt]
    | cons other others =>
      rw [← not_lt, List.cons_lt_cons_iff]
      by_cases same : part = other
      · simp [precedes, same, ih, ← not_lt]
      · have apart : ¬other = part := fun equal => same equal.symm
        have strict : part < other ↔ ¬other < part :=
          ⟨lt_asymm, fun above => lt_of_le_of_ne (not_lt.mp above) same⟩
        simp [precedes, same, apart, strict]

/-- Sorted lists of parts are in ascending order. -/
theorem mergeSort_precedes (places : List (List String)) :
    (places.mergeSort precedes).Pairwise (· ≤ ·) := by
  have sorted : (places.mergeSort precedes).Pairwise fun left right =>
      precedes left right = true := by
    apply List.pairwise_mergeSort
    · intro left middle right
      rw [precedes_iff, precedes_iff, precedes_iff]
      exact le_trans
    · intro left right
      rw [Bool.or_eq_true, precedes_iff, precedes_iff]
      exact le_total left right
  exact sorted.imp precedes_iff.mp

/-- It does not matter in which order lists of parts are before they are sorted. -/
theorem mergeSort_precedes_perm {places others : List (List String)} (perm : others.Perm places) :
    others.mergeSort precedes = places.mergeSort precedes := by
  apply List.Perm.eq_of_pairwise _ (mergeSort_precedes others) (mergeSort_precedes places)
  · exact (others.mergeSort_perm _).trans (perm.trans (places.mergeSort_perm _).symm)
  · exact fun left right _ _ => le_antisymm

theorem append_le_append (front : List String) {left right : List String} (le : left ≤ right) :
    front ++ left ≤ front ++ right := by
  induction front with
  | nil => exact le
  | cons part rest ih => exact List.cons_le_cons part ih

variable {tree other : FileTree} {place : List String}

/-- A walk goes through the files below a directory in ascending order, and through all of them. -/
theorem filesBelow_spec {path : Path} (found : tree.find path = .ok (place, .directory)) :
    (tree.filesBelow path).Pairwise (fun file later => file.parts ≤ later.parts) ∧
      ∀ file, file ∈ tree.filesBelow path ↔
        ∃ rest content, (place ++ rest, content) ∈ tree.files ∧ file = path.append rest := by
  unfold filesBelow
  rw [found]
  constructor
  · apply List.pairwise_map.mpr
    exact (mergeSort_precedes _).imp (append_le_append path.parts)
  · intro file
    simp only [List.mem_map, List.mem_mergeSort, List.mem_filterMap]
    constructor
    · rintro ⟨rest, ⟨entry, member, below⟩, rfl⟩
      split at below
      · rename_i inside
        cases below
        have whole := List.prefix_iff_eq_append.mp (List.isPrefixOf_iff_prefix.mp inside)
        refine ⟨_, entry.2, ?_, rfl⟩
        rw [whole]
        exact member
      · cases below
    · rintro ⟨rest, content, member, rfl⟩
      refine ⟨rest, ⟨_, member, ?_⟩, rfl⟩
      rw [if_pos (List.isPrefixOf_iff_prefix.mpr (List.prefix_append place rest)),
        List.drop_left]

/-- Two trees hold the same files and directories, perhaps in different orders, and no two files at
one place, and they refuse in the same words. -/
structure SameContent (tree other : FileTree) : Prop where
  distinct : (tree.files.map Prod.fst).Nodup
  files : other.files.Perm tree.files
  directories : other.directories.Perm tree.directories
  wording : other.wording = tree.wording

namespace SameContent

variable (same : SameContent tree other)

include same

theorem at? (place : List String) : other.at? place = tree.at? place := by
  have lookup : other.files.lookup place = tree.files.lookup place := by
    have distinctToo : (other.files.map Prod.fst).Nodup :=
      (same.files.map Prod.fst).nodup_iff.mpr same.distinct
    ext content
    rw [Table.lookup_eq_some_iff_mem same.distinct, Table.lookup_eq_some_iff_mem distinctToo]
    exact same.files.mem_iff
  -- A directory is there as well if a file lies below it.
  have directory : other.isDirectoryAt place = tree.isDirectoryAt place := by
    rw [isDirectoryAt, isDirectoryAt, same.directories.any_eq, same.files.any_eq]
  rw [FileTree.at?, FileTree.at?, lookup, directory]

theorem follow (place parts : List String) :
    other.follow place parts = tree.follow place parts := by
  induction parts generalizing place with
  | nil => rw [FileTree.follow, FileTree.follow, same.at?]
  | cons part rest ih => rw [FileTree.follow, FileTree.follow, same.at?, ih, ih]

theorem refusal (path : Path) : other.refusal path = tree.refusal path := by
  unfold FileTree.refusal
  rw [same.wording]

theorem find (path : Path) : other.find path = tree.find path := by
  unfold FileTree.find
  rw [same.follow, same.refusal]

theorem isFile (path : Path) : other.isFile path = tree.isFile path := by
  rw [FileTree.isFile, FileTree.isFile, same.find]

theorem isDirectory (path : Path) : other.isDirectory path = tree.isDirectory path := by
  rw [FileTree.isDirectory, FileTree.isDirectory, same.find]

theorem filesBelow (path : Path) : other.filesBelow path = tree.filesBelow path := by
  unfold FileTree.filesBelow
  rw [same.find]
  split
  · dsimp only
    rw [mergeSort_precedes_perm (same.files.filterMap _)]
  · rfl

theorem read (file : DataFile) (reader : DataReader) (load : String → Except Fault Value) :
    reader.read other file load = reader.read tree file load := by
  have octets : other.read file.path = tree.read file.path := by
    rw [FileTree.read, FileTree.read, same.find, same.refusal]
  have text : other.readText file.path = tree.readText file.path := by
    rw [readText, readText, octets, same.refusal]
  have parsed {α : Type} (rules : String → Except Fault α) :
      other.readAs file.path rules = tree.readAs file.path rules := by
    rw [readAs, readAs, text, same.refusal]
  cases reader <;> simp only [DataReader.read, octets, text, parsed]

end SameContent

end TemplateStream.FileTree
