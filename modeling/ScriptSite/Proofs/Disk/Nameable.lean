import ScriptSite.Proofs.Disk.Copy
import ScriptSite.Proofs.Text.Lines

/-!
# Paths that can be named

A disk cannot be asked about a path with a character that no name has. Nothing else makes it fail in
that way: if all paths of an operation can be named, the disk may refuse, and that is all.
-/

namespace ScriptSite

variable {path source target : Path} {disk : Disk}

namespace Path

/-- Whether no name in a path has a character that no name has. -/
def IsNameable (path : Path) : Prop :=
  ∀ name ∈ path.names, '\x00' ∉ name

theorem isNameable_iff :
    path.IsNameable ↔ (path.names.any fun name => name.contains '\x00') = false := by
  simp [IsNameable]

theorem IsNameable.parent (nameable : path.IsNameable) : path.parent.IsNameable :=
  fun name mem => nameable name (List.dropLast_subset _ mem)

end Path

namespace Disk

theorem isNameable_of_locate {followLast : Bool} {place : Place}
    (located : disk.locate followLast path = .ok place) : path.IsNameable := by
  rw [Path.isNameable_iff]
  by_contra unnameable
  rw [Bool.not_eq_false] at unnameable
  rw [locate, if_pos unnameable] at located
  cases located

theorem isNameable_of_find {address : Address} {entry : Entry}
    (found : disk.find path = .ok (address, entry)) : path.IsNameable := by
  rw [find] at found
  split at found
  · exact isNameable_of_locate (by assumption)
  · cases found
  · cases found

end Disk

end ScriptSite
