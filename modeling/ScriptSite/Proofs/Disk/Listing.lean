import Mathlib.Data.List.Nodup
import ScriptSite.Disk.Access
import ScriptSite.Proofs.Disk.Run
import ScriptSite.Proofs.Text.Order

/-!
# Listing directories

A disk lists no address twice, and the names in an address are names: they are not empty, and they
are not the dots that stand for a directory and for the one above it. So a directory has no name
twice, and a name in it can be followed from there.
-/

namespace ScriptSite.Disk

variable {disk before after : Disk} {path : Path} {directory key address : Address} {name : Text}

/-- Whether the addresses that a disk lists are addresses of different entries. -/
structure WellFormed (disk : Disk) : Prop where
  nodup : (disk.entries.map Prod.fst).Nodup
  isName : ∀ address ∈ disk.entries.map Prod.fst, ∀ name ∈ address,
    Path.isName name = true ∧ name ≠ Path.upName

theorem nameIn?_eq_some_iff : nameIn? directory key = some name ↔ key = directory ++ [name] := by
  rw [nameIn?]
  constructor
  · intro isName
    split at isName
    · rename_i below
      rcases List.isPrefixOf_iff_prefix.mp below.2 with ⟨rest, rfl⟩
      rcases List.length_eq_one_iff.mp (by simpa using below.1) with ⟨last, rfl⟩
      simpa using isName
    · simp at isName
  · rintro rfl
    simp

theorem names_eq (disk : Disk) (directory : Address) :
    disk.names directory = (disk.entries.map Prod.fst).filterMap (nameIn? directory) := by
  rw [names, List.filterMap_map]
  rfl

theorem mem_names_iff :
    name ∈ disk.names directory ↔ directory ++ [name] ∈ disk.entries.map Prod.fst := by
  rw [names_eq, List.mem_filterMap]
  simp only [nameIn?_eq_some_iff, exists_eq_right]

theorem sortedNames_eq_insertionSort :
    sortedNames = fun disk directory =>
      (disk.names directory).insertionSort fun first second => Text.le first second = true := by
  funext disk directory
  exact Text.mergeSort_eq_insertionSort _

theorem nodup_sortedNames (nodup : (disk.entries.map Prod.fst).Nodup) (directory : Address) :
    (disk.sortedNames directory).Nodup := by
  rw [sortedNames, (List.mergeSort_perm _ _).nodup_iff, names_eq]
  refine nodup.filterMap ?_
  intro key other name first second
  rw [nameIn?_eq_some_iff.mp first, nameIn?_eq_some_iff.mp second]

theorem WellFormed.nodup_sortedNames (wellFormed : disk.WellFormed) (directory : Address) :
    (disk.sortedNames directory).Nodup :=
  Disk.nodup_sortedNames wellFormed.nodup directory

theorem WellFormed.isName_of_mem_sortedNames (wellFormed : disk.WellFormed)
    (mem : name ∈ disk.sortedNames directory) :
    Path.isName name = true ∧ name ≠ Path.upName := by
  rw [sortedNames, List.mem_mergeSort, mem_names_iff] at mem
  exact wellFormed.isName _ mem name (by simp)

theorem onlyLooks_list (path : Path) : OnlyLooks (Disk.list path) := by
  intro disk
  rw [Disk.list, runOn_bind, runOn_get]
  simp only
  split
  · split <;> rfl
  · rfl
  · rfl

/-- What a listing gives are the names in the directory that the path finds. -/
theorem exists_of_runOn_list {names : List Text}
    (run : runOn (Disk.list path) before = (.ok names, after)) :
    ∃ address, before.findReadable path = .ok (address, .directory) ∧
      names = before.sortedNames address := by
  rw [Disk.list, runOn_bind, runOn_get] at run
  simp only at run
  split at run
  · rename_i address found
    split at run
    · cases run
    · rename_i allowed
      cases run
      exact ⟨address, findReadable_eq_ok_iff.mpr ⟨found, Bool.eq_false_iff.mpr allowed⟩, rfl⟩
  · cases run
  · cases run

theorem runOn_list_of_findReadable (readable : disk.findReadable path = .ok (address, .directory)) :
    runOn (Disk.list path) disk = (.ok (disk.sortedNames address), disk) := by
  rcases findReadable_eq_ok_iff.mp readable with ⟨found, allowed⟩
  rw [Disk.list, runOn_bind, runOn_get]
  simp only [found, allowed, Bool.false_eq_true, if_false]
  rfl

end ScriptSite.Disk
