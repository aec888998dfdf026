import Mathlib.Data.List.Basic
import ScriptSite.Proofs.Disk.Address
import ScriptSite.Proofs.Disk.History
import ScriptSite.Proofs.Text.Order

/-!
# Paths through links

A path that finds an entry by its name in a directory finds the directory without that name, however
many links are on the way, and the directory lists the name (`exists_directory_of_find_child`). The
entry may be a link itself, so nothing is said of what stands at the name. Two dots lead to a
directory, so the name of a file is listed in any case.

A disk lists its entries in some order. On a disk with the same entries in another order (`Alike`)
every path finds the same, and every directory has the same names.
-/

namespace ScriptSite.Disk

variable {disk other : Disk} {path : Path} {here address : Address} {front : List Text}
  {name : Text}
  {entry : Entry} {links : Nat}

/-- What a walk finds at its last name is listed in the directory that it comes to without it,
unless the name leads up to a directory. -/
theorem exists_of_walk_concat
    (walked : disk.walk true links here (front ++ [name]) = .ok (.found address entry)) :
    ∃ directory, disk.walk true links here front = .ok (.found directory .directory) ∧
      (name = Path.upName ∧ entry = .directory ∨ disk.get? (directory ++ [name]) ≠ none) := by
  -- The outer induction is on the links that may still be followed, the inner one on the names.
  induction links generalizing here front with
  | zero => simp [walk] at walked
  | succ links ih =>
      simp only [walk] at walked ⊢
      induction front generalizing here with
      | nil =>
          refine ⟨here, rfl, ?_⟩
          by_cases up : name = Path.upName
          · left
            simp only [List.nil_append, walkNames, if_pos up, Except.ok.injEq,
              Place.found.injEq] at walked
            exact ⟨up, walked.2.symm⟩
          · right
            intro absent
            simp only [List.nil_append, walkNames, if_neg up, absent] at walked
            split at walked <;> cases walked
      | cons first front inner =>
          have more : (front ++ [name]).isEmpty = false := by simp
          rw [List.cons_append, walkNames] at walked
          rw [walkNames]
          by_cases up : first = Path.upName
          · rw [if_pos up] at walked ⊢
            exact inner walked
          · rw [if_neg up] at walked ⊢
            by_cases long : longestName < (Utf8.encode first).length
            · rw [if_pos long] at walked
              cases walked
            · rw [if_neg long] at walked ⊢
              rcases stands : disk.get? (here ++ [first]) with _ | _ | _ | target | _
              · simp [stands, more] at walked
              · simp [stands, more] at walked
              · simp only [stands] at walked ⊢
                exact inner walked
              · simp only [stands, more, Bool.false_eq_true, false_and, if_false,
                  ← List.append_assoc] at walked
                simp only [Bool.not_true, Bool.false_eq_true, and_false, if_false]
                exact ih walked
              · simp [stands, more] at walked

theorem exists_walk_of_find (found : disk.find path = .ok (address, entry)) :
    path.IsUsable ∧
      disk.walk true 41 (disk.start path) path.names = .ok (.found address entry) := by
  rw [find] at found
  split at found
  · rename_i located
    cases found
    rw [locate] at located
    split at located
    · cases located
    · rename_i nameable
      split at located
      · cases located
      · rename_i short
        split at located
        · rename_i walked
          cases located
          exact ⟨⟨by simpa using nameable, Nat.not_lt.mp short⟩, walked⟩
        · cases located
  · cases found
  · cases found

theorem find_of_walk (usable : path.IsUsable)
    (walked : disk.walk true 41 (disk.start path) path.names = .ok (.found address entry)) :
    disk.find path = .ok (address, entry) := by
  rw [start] at walked
  rw [find, locate, usable.nameable, if_neg (by simp), if_neg (Nat.not_lt.mpr usable.short), walked]

/-- A path that finds an entry of a directory finds the directory up to there, which lists it unless
it is the directory above. -/
theorem exists_directory_of_find (found : disk.find (path.child name) = .ok (address, entry)) :
    ∃ directory, disk.find path = .ok (directory, .directory) ∧
      (name = Path.upName ∧ entry = .directory ∨ name ∈ disk.sortedNames directory) := by
  rcases exists_walk_of_find found with ⟨usable, walked⟩
  rcases exists_of_walk_concat walked with ⟨directory, above, there⟩
  refine ⟨directory, ?_, ?_⟩
  · exact find_of_walk (usable.of_leadsThrough ⟨rfl, List.prefix_append _ _⟩) above
  · rwa [mem_sortedNames_iff]

theorem exists_directory_of_find_child (notUp : name ≠ Path.upName)
    (found : disk.find (path.child name) = .ok (address, entry)) :
    ∃ directory, disk.find path = .ok (directory, .directory) ∧
      name ∈ disk.sortedNames directory := by
  rcases exists_directory_of_find found with ⟨directory, above, ⟨up, _⟩ | listed⟩
  · exact absurd up notUp
  · exact ⟨directory, above, listed⟩

/-- A file is listed in the directory that its path finds without its name. -/
theorem exists_directory_of_isFile_child (isFile : disk.isFile (path.child name) = .ok true) :
    ∃ directory, disk.find path = .ok (directory, .directory) ∧
      name ∈ disk.sortedNames directory := by
  rcases test_eq_true_iff.mp isFile with ⟨address, entry, found, isFileEntry⟩
  rcases exists_directory_of_find found with ⟨directory, above, ⟨_, rfl⟩ | listed⟩
  · cases isFileEntry
  · exact ⟨directory, above, listed⟩

/-- Where no address is listed twice, an entry is looked up exactly if it is listed. -/
theorem lookup_eq_some_iff_mem {entries : List (Address × Entry)}
    (nodup : (entries.map Prod.fst).Nodup) :
    entries.lookup address = some entry ↔ (address, entry) ∈ entries := by
  induction entries with
  | nil => simp
  | cons first entries ih =>
      rcases first with ⟨key, value⟩
      rw [List.map_cons, List.nodup_cons] at nodup
      by_cases same : address = key
      · subst same
        have absent : (address, entry) ∉ entries := by
          intro mem
          exact nodup.1 (List.mem_map.mpr ⟨_, mem, rfl⟩)
        simp [absent, eq_comm]
      · simp [List.lookup_cons, beq_false_of_ne same, ih nodup.2, same]

/-- Whether two disks have the same entries, listed in some order each, and the user may do the same
with them. -/
structure Alike (disk other : Disk) : Prop where
  current_eq : other.current = disk.current
  denies_eq : other.denies = disk.denies
  perm : other.entries.Perm disk.entries
  nodup : (disk.entries.map Prod.fst).Nodup

namespace Alike

theorem get?_eq (alike : Alike disk other) (address : Address) :
    other.get? address = disk.get? address := by
  have otherNodup := (alike.perm.map Prod.fst).nodup_iff.mpr alike.nodup
  rw [get?, get?]
  split
  · rfl
  · apply Option.ext
    intro entry
    rw [lookup_eq_some_iff_mem otherNodup, lookup_eq_some_iff_mem alike.nodup, alike.perm.mem_iff]

theorem find_eq (alike : Alike disk other) (path : Path) : other.find path = disk.find path :=
  find_congr alike.current_eq alike.get?_eq path

theorem sortedNames_eq (alike : Alike disk other) (directory : Address) :
    other.sortedNames directory = disk.sortedNames directory := by
  have otherNodup := (alike.perm.map Prod.fst).nodup_iff.mpr alike.nodup
  apply Text.eq_of_pairwise_of_mem_iff
  · exact Text.pairwise_mergeSort _
  · exact Text.pairwise_mergeSort _
  · exact nodup_sortedNames otherNodup _
  · exact nodup_sortedNames alike.nodup _
  · intro name
    rw [mem_sortedNames_iff, mem_sortedNames_iff, alike.get?_eq]

end Alike

end ScriptSite.Disk
