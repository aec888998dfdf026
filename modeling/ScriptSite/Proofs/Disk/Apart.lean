import ScriptSite.Proofs.Disk.Write

/-!
# Paths that are apart

Two paths are apart if no disk without links has them find the same entry. What a path finds stays
what it is while paths that are apart from it are written to (`Changes.find_eq_ok`), and nothing
comes to be there but a directory that had to be made (`Changes.spares`).

Paths whose last two names differ are apart wherever they start, and so are the paths of an entry of
a directory and of an entry one directory further down.
-/

namespace ScriptSite

namespace Path

/-- Whether two paths never find the same entry on a disk without links. -/
def Apart (path other : Path) : Prop :=
  ∀ (disk : Disk) (address : Address) (entry otherEntry : Entry), disk.Linkless →
    disk.find path = .ok (address, entry) → disk.find other ≠ .ok (address, otherEntry)

theorem Apart.symm {path other : Path} (apart : path.Apart other) : other.Apart path := by
  intro disk address entry otherEntry linkless found otherFound
  exact apart disk address otherEntry entry linkless otherFound found

end Path

namespace Disk

variable {disk before after : Disk} {path base other : Path} {address : Address} {entry : Entry}
  {group name otherGroup otherName : Text} {made written : Path → Prop}

theorem get?_of_find (linkless : disk.Linkless) (found : disk.find path = .ok (address, entry))
    (notDirectory : entry ≠ .directory) : disk.get? address = some entry := by
  rw [find_eq_ok_iff linkless] at found
  exact found.2.get?_address (by simp [notDirectory])

/-- What the path of an entry of a directory finds is that entry of where the directory is. -/
theorem exists_of_find_child (linkless : disk.Linkless) (notUp : name ≠ Path.upName)
    (found : disk.find (path.child name) = .ok (address, entry)) :
    ∃ directory, disk.LeadsTo path (.found directory .directory) ∧ address = directory ++ [name] ∧
      disk.get? address = some entry :=
  LeadsTo.child notUp ((find_eq_ok_iff linkless).mp found).2

theorem exists_of_find_child_child (linkless : disk.Linkless) (groupNotUp : group ≠ Path.upName)
    (notUp : name ≠ Path.upName)
    (found : disk.find ((path.child group).child name) = .ok (address, entry)) :
    ∃ directory, disk.LeadsTo path (.found directory .directory) ∧
      address = directory ++ [group, name] := by
  rcases exists_of_find_child linkless notUp found with ⟨middle, groupLeads, rfl, _⟩
  rcases LeadsTo.child groupNotUp groupLeads with ⟨directory, leads, rfl, _⟩
  exact ⟨directory, leads, by simp⟩

theorem apart_of_ne (groupNotUp : group ≠ Path.upName) (notUp : name ≠ Path.upName)
    (otherGroupNotUp : otherGroup ≠ Path.upName) (otherNotUp : otherName ≠ Path.upName)
    (different : group = otherGroup → name ≠ otherName) :
    ((path.child group).child name).Apart ((other.child otherGroup).child otherName) := by
  intro disk address entry otherEntry linkless found otherFound
  rcases exists_of_find_child_child linkless groupNotUp notUp found with ⟨directory, _, rfl⟩
  rcases exists_of_find_child_child linkless otherGroupNotUp otherNotUp otherFound with
    ⟨otherDirectory, _, same⟩
  rcases List.append_inj' same rfl with ⟨_, sameNames⟩
  simp only [List.cons.injEq] at sameNames
  exact different sameNames.1 sameNames.2.1

theorem apart_child_child_child (notUp : name ≠ Path.upName) (groupNotUp : group ≠ Path.upName)
    (otherNotUp : otherName ≠ Path.upName) :
    (path.child name).Apart ((path.child group).child otherName) := by
  intro disk address entry otherEntry linkless found otherFound
  rcases exists_of_find_child linkless notUp found with ⟨directory, leads, rfl, _⟩
  rcases exists_of_find_child_child linkless groupNotUp otherNotUp otherFound with
    ⟨otherDirectory, otherLeads, same⟩
  have sameDirectory := leads.unique otherLeads
  simp only [Place.found.injEq, and_true] at sameDirectory
  rw [sameDirectory] at same
  simp at same

theorem apart_child_child (notUp : name ≠ Path.upName) (otherNotUp : otherName ≠ Path.upName)
    (different : name ≠ otherName) : (path.child name).Apart (path.child otherName) := by
  intro disk address entry otherEntry linkless found otherFound
  rcases exists_of_find_child linkless notUp found with ⟨directory, _, rfl, _⟩
  rcases exists_of_find_child linkless otherNotUp otherFound with ⟨otherDirectory, _, same, _⟩
  have sameName := (List.append_inj' same rfl).2
  rw [List.singleton_inj] at sameName
  exact different sameName

/-- What a path finds it goes on finding while paths that are apart from it are written to. -/
theorem Changes.find_eq_ok (changes : Changes made written before after)
    (linkless : before.Linkless) (apart : ∀ other, written other → path.Apart other)
    (found : before.find path = .ok (address, entry)) :
    after.find path = .ok (address, entry) := by
  have afterLinkless := changes.linkless linkless
  by_cases isDirectory : entry = .directory
  · rw [isDirectory] at found ⊢
    exact find_mono linkless afterLinkless changes.keeps found
  · have stood := get?_of_find linkless found isDirectory
    cases changes.change address with
    | nothing same =>
        exact find_of_get? linkless afterLinkless changes.keeps found isDirectory (same.trans stood)
    | directory absent => simp [stood] at absent
    | file _ new isWritten otherFound =>
        have nowFound :=
          find_of_get? linkless afterLinkless changes.keeps found isDirectory new
        exact absurd otherFound (apart _ isWritten after address _ _ afterLinkless nowFound)

/-- What a path finds may be read as before while paths that are apart from it are written to. -/
theorem Changes.findReadable_eq (changes : Changes made written before after)
    (linkless : before.Linkless) (apart : ∀ other, written other → path.Apart other)
    (found : before.find path = .ok (address, entry)) (notDirectory : entry ≠ .directory) :
    after.findReadable path = before.findReadable path := by
  have afterFound := changes.find_eq_ok linkless apart found
  refine findReadable_congr (afterFound.trans found.symm) fun there other thereFound => ?_
  rw [found, Except.ok.injEq, Prod.mk.injEq] at thereFound
  rw [← thereFound.1]
  rcases changes.denies .reading address with same | absent | ⟨other, _, isWritten, otherFound⟩
  · exact same
  · rw [get?_of_find linkless found notDirectory] at absent
    cases absent
  · exact absurd otherFound
      (apart other isWritten after address _ _ (changes.linkless linkless) afterFound)

/-- Whether nothing has happened at a path but that a directory is there which had to be made: what
the path found it finds, and what it finds stood there. -/
structure Spares (made : Path → Prop) (before after : Disk) (path : Path) : Prop where
  kept : ∀ address entry, before.find path = .ok (address, entry) →
    after.find path = .ok (address, entry)
  stood : ∀ address entry, after.find path = .ok (address, entry) →
    before.get? address = some entry ∨
      (before.get? address = none ∧ entry = .directory ∧
        ∃ above, made above ∧ after.find above = .ok (address, .directory))

theorem Changes.spares (changes : Changes made written before after) (linkless : before.Linkless)
    (notUp : name ≠ Path.upName) (apart : ∀ other, written other → (path.child name).Apart other) :
    Spares made before after (path.child name) where
  kept := fun _ _ found => changes.find_eq_ok linkless apart found
  stood := by
    intro address entry found
    have afterLinkless := changes.linkless linkless
    rcases exists_of_find_child afterLinkless notUp found with ⟨_, _, _, stands⟩
    cases changes.change address with
    | nothing same => exact Or.inl (same.symm.trans stands)
    | directory absent new isMade aboveFound =>
        rw [new, Option.some.injEq] at stands
        exact Or.inr ⟨absent, stands.symm, _, isMade, aboveFound⟩
    | file _ _ isWritten otherFound =>
        exact absurd otherFound (apart _ isWritten after address _ _ afterLinkless found)

end Disk

end ScriptSite
