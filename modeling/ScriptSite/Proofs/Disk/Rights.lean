import ScriptSite.Proofs.Disk.Copy

/-!
# What copies may be used for

Making directories and writing files denies the user nothing: what is denied of an entry afterwards
was denied of it before (`Loosens`). A copy is denied what its source is denied. So copying denies
something new only if something is denied of a source, and because a source has to be read to be
copied, that is only writing to it (`Copied.loosens`).
-/

namespace ScriptSite.Disk

variable {disk before mid after : Disk} {source target path : Path} {address : Address}
  {entry : Entry} {access : Access} {items : List (Path × Path)} {depth : Nat}

/-- Whether nothing is denied of what a path finds. -/
def Allows (disk : Disk) (path : Path) : Prop :=
  ∀ address entry, disk.find path = .ok (address, entry) →
    ∀ access, disk.denies access address = false

theorem allows_of_denied_eq_nil (none : disk.denied = []) (path : Path) :
    disk.Allows path := by
  intro address entry _ access
  simp [denies, none]

/-- Where nothing is denied of the one and of the other, copying rights changes nothing. -/
theorem copyRights_eq_self (sourceAllows : disk.Allows source)
    (targetAllows : disk.Allows target) : disk.copyRights source target = disk := by
  suffices same : disk.deniedAsOf source target = disk.denied by rw [copyRights, same]
  have apart : ∀ address entry path, disk.Allows path → disk.find path = .ok (address, entry) →
      ∀ item ∈ disk.denied, item.1 ≠ address := by
    rintro address entry path allows found ⟨there, access⟩ mem rfl
    have denied := allows there entry found access
    simp [denies, mem] at denied
  rw [deniedAsOf]
  split
  · rename_i original _ copy _ sourceFound targetFound
    have kept : disk.deniedElsewhere copy = disk.denied :=
      List.filter_eq_self.mpr fun item mem =>
        decide_eq_true (apart copy _ target targetAllows targetFound item mem)
    have none : disk.denied.filter (·.1 = original) = [] :=
      List.filter_eq_nil_iff.mpr fun item mem => by
        simpa using apart original _ source sourceAllows sourceFound item mem
    rw [kept, none, List.map_nil, List.append_nil]
  · rfl

theorem copyRights_of_denied_eq_nil (none : disk.denied = []) (source target : Path) :
    disk.copyRights source target = disk :=
  copyRights_eq_self (allows_of_denied_eq_nil none _) (allows_of_denied_eq_nil none _)

/-- A copy is denied what its source is denied. -/
theorem denies_copyRights_of_find {original copy : Address} {other : Entry}
    (sourceFound : disk.find source = .ok (original, entry))
    (targetFound : disk.find target = .ok (copy, other)) :
    (disk.copyRights source target).denies access copy = disk.denies access original := by
  simp [denies, copyRights, deniedAsOf, sourceFound, targetFound, deniedElsewhere]

/-- Whether nothing is denied of an entry that was not denied of it before. -/
def Loosens (before after : Disk) : Prop :=
  ∀ access address, after.denies access address = true →
    before.denies access address = true ∧ (after.get? address ≠ none → before.get? address ≠ none)

instance : IsPreorder Disk Loosens where
  refl _ _ _ denied := ⟨denied, id⟩
  trans _ _ _ first second access address denied := by
    rcases second access address denied with ⟨midDenied, stood⟩
    rcases first access address midDenied with ⟨beforeDenied, hadStood⟩
    exact ⟨beforeDenied, hadStood ∘ stood⟩

namespace Loosens

theorem denies_eq_false (loosens : Loosens before after)
    (allowed : before.denies access address = false) : after.denies access address = false := by
  by_contra denied
  rw [Bool.not_eq_false] at denied
  simp [(loosens access address denied).1] at allowed

/-- Nothing is denied of what is new. -/
theorem denies_of_new (loosens : Loosens before after) (absent : before.get? address = none)
    (there : after.get? address ≠ none) : after.denies access address = false := by
  by_contra denied
  rw [Bool.not_eq_false] at denied
  exact (loosens access address denied).2 there absent

end Loosens

theorem loosens_set (disk : Disk) (address : Address) (entry : Entry) :
    Loosens disk (disk.set address entry) := by
  intro access other denied
  by_cases same : other = address
  · subst same
    by_cases absent : disk.get? other = none
    · simp [denies_set_self absent] at denied
    · rw [denies, denied_set_of_get? absent] at denied
      exact ⟨denied, fun _ => absent⟩
  · rw [denies_set_of_ne same] at denied
    rw [get?_set_of_ne same]
    exact ⟨denied, id⟩

theorem loosens_copyRights (allows : disk.Allows source) (target : Path) :
    Loosens disk (disk.copyRights source target) := by
  intro access address denied
  refine ⟨?_, id⟩
  by_cases isTarget : ∃ entry, disk.find target = .ok (address, entry)
  · rcases isTarget with ⟨_, targetFound⟩
    rcases sourceFound : disk.find source with fault | ⟨original, entry⟩
    · rwa [denies, copyRights, deniedAsOf, sourceFound] at denied
    · rw [denies_copyRights_of_find sourceFound targetFound,
        allows original entry sourceFound access] at denied
      cases denied
  · rwa [denies_copyRights_of_ne (not_exists.mp isTarget)] at denied

/-- Making directories denies nothing. -/
theorem Writes.loosens_of_unwritten {made : Path → Prop}
    (writes : Writes made (fun _ => False) before after) : Loosens before after := by
  induction writes with
  | nothing => exact refl_of Loosens before
  | directory _ _ _ ih => exact trans_of Loosens ih (loosens_set _ _ _)
  | file _ isWritten => exact isWritten.elim
  | rights _ isWritten => exact isWritten.elim

theorem loosens_writeFile (path : Path) (bytes : Bytes) :
    Respects Loosens (writeFile path bytes) := by
  intro before outcome after run
  rcases outcome with fault | _
  · rw [eq_of_runOn_writeFile_error run]
    exact refl_of Loosens before
  · rcases runOn_writeFile_eq_ok_iff.mp run with ⟨place, _, _, _, rfl⟩
    exact loosens_set _ _ _

/-- What has been read, and is not write-protected, allows everything as long as nothing more is
denied. -/
theorem allows_of_findReadable (linkless : before.Linkless)
    (readable : before.findReadable path = .ok (address, entry))
    (writable : before.denies .writing (before.addressOf path) = false)
    (loosens : Loosens before after) (afterLinkless : after.Linkless)
    (same : after.current = before.current) : after.Allows path := by
  rcases findReadable_eq_ok_iff.mp readable with ⟨found, allowed⟩
  rw [address_eq_of_find linkless found] at allowed
  intro there other afterFound access
  rw [address_eq_of_find afterLinkless afterFound, addressOf_congr same]
  cases access with
  | reading => exact loosens.denies_eq_false allowed
  | writing => exact loosens.denies_eq_false writable

/-- Whether no source of an item, and nothing below one, is write-protected. -/
def AllowsWriting (disk : Disk) (items : List (Path × Path)) : Prop :=
  ∀ item ∈ items, ∀ rest, disk.denies .writing (disk.addressOf item.1 ++ rest) = false

namespace AllowsWriting

theorem head (allows : before.AllowsWriting ((source, target) :: items)) :
    before.denies .writing (before.addressOf source) = false := by
  simpa using allows _ List.mem_cons_self []

theorem of_subset {fewer : List (Path × Path)} (allows : before.AllowsWriting items)
    (within : fewer ⊆ items) : before.AllowsWriting fewer :=
  fun item mem => allows item (within mem)

theorem mono (allows : before.AllowsWriting items) (loosens : Loosens before after)
    (same : after.current = before.current) : after.AllowsWriting items := by
  intro item mem rest
  rw [addressOf_congr same]
  exact loosens.denies_eq_false (allows item mem rest)

theorem entryPairs (allows : before.AllowsWriting ((source, target) :: items)) {names : List Text}
    (noUp : ∀ name ∈ names, name ≠ Path.upName) :
    before.AllowsWriting (entryPairs source target names) := by
  intro item mem rest
  rcases List.mem_map.mp mem with ⟨name, nameMem, rfl⟩
  rw [addressOf_child (noUp name nameMem), List.append_assoc]
  exact allows _ List.mem_cons_self ([name] ++ rest)

end AllowsWriting

theorem loosens_of_runOn_putCopy {place : Path} {bytes : Bytes} (orderly : before.Orderly)
    (readable : before.findReadable source = .ok (address, entry))
    (writable : before.denies .writing (before.addressOf source) = false)
    (put : runOn (putCopy source place bytes) before = (.ok (), after)) :
    Loosens before after := by
  rcases runOn_putCopy_eq_ok_iff.mp put with ⟨written, run, rfl⟩
  have first := loosens_writeFile _ _ _ _ _ run
  have changes := (writesOnly_writeFile _ _ _ _ _ run orderly).changes orderly.linkless
  have allows := allows_of_findReadable orderly.linkless readable writable first
    (changes.linkless orderly.linkless) changes.current_eq
  exact trans_of Loosens first (loosens_copyRights allows place)

/-- Copying denies nothing if no source is write-protected. -/
theorem Copied.loosens (copied : Copied depth items before after) (orderly : before.Orderly)
    (allows : before.AllowsWriting items) : Loosens before after := by
  induction copied with
  | done => exact refl_of Loosens _
  | @file depth before mid after source target address bytes items readable _ put _ ih =>
      have first := loosens_of_runOn_putCopy orderly readable allows.head put
      have writes := writesOnly_putCopy _ _ _ _ _ _ put orderly
      have same := (writes.changes orderly.linkless).current_eq
      exact trans_of Loosens first (ih (writes.orderly orderly)
        ((allows.of_subset (List.subset_cons_self _ _)).mono first same))
  | @directory depth before mid inner after source target address items readable ensured inside _
      insideIh restIh =>
      have writes := writesOnly_ensureDirectory _ _ _ _ ensured orderly
      have midOrderly := writes.orderly orderly
      have insideWrites := inside.writes midOrderly
      have innerOrderly := insideWrites.orderly midOrderly
      have midSame := (writes.changes orderly.linkless).current_eq
      have same := ((insideWrites.changes midOrderly.linkless).current_eq).trans midSame
      have noUp : ∀ name ∈ before.sortedNames address, name ≠ Path.upName :=
        fun name mem => orderly.ne_up _ name (mem_sortedNames_iff.mp mem)
      have first := writes.loosens_of_unwritten
      have second := trans_of Loosens first
        (insideIh midOrderly ((allows.entryPairs noUp).mono first midSame))
      have innerAllows := allows_of_findReadable orderly.linkless readable allows.head second
        innerOrderly.linkless same
      have third := trans_of Loosens second (loosens_copyRights innerAllows target)
      exact trans_of Loosens third (restIh (innerOrderly.copyRights source target)
        ((allows.of_subset (List.subset_cons_self _ _)).mono third same))

end ScriptSite.Disk
