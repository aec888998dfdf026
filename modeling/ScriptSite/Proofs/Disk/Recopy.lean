import ScriptSite.Proofs.Disk.Overlay
import ScriptSite.Proofs.Disk.Retrace
import ScriptSite.Proofs.Text.Order

/-!
# Copying again

Copying depends on what is copied, and on which of the targets are directories. Neither changes when
sources outside of a directory are copied to targets inside of it, so what has been copied can be
copied again, to the same places (`Copied.again`). For this the sources must have been what they are
in the end already (`Steady`), and none may be write-protected: its copy is, and cannot be written
over.
-/

namespace ScriptSite.Disk

variable {final first mid second : Disk} {top address : Address} {path : Path} {bytes : Bytes}

/-- Whether outside of an address a disk is what it is in the end. -/
def Steady (top : Address) (final first : Disk) : Prop :=
  ∀ address, ¬top <+: address → first.get? address = final.get? address

/-- What is steady stays steady. -/
theorem Steady.of_advances (steady : Steady top final first)
    (advances : Advances top final first mid) (orderly : first.Orderly)
    (comesTo : ComesTo top mid final) : Steady top final mid := by
  have changes := advances.changes orderly
  intro address outside
  have elsewhere : ∀ path, Below top final path → first.addressOf path ≠ address := by
    rintro path below rfl
    rw [← addressOf_congr (comesTo.current_eq.trans changes.current_eq)] at outside
    exact outside below
  rcases changes.get?_eq_or_made orderly.linkless elsewhere with same | ⟨_, new⟩
  · exact same.trans (steady address outside)
  · rw [new, comesTo.keeps.directory address new]

theorem copyPlace_of_directory {source target : Path}
    (found : first.find target = .ok (address, .directory)) :
    first.copyPlace source target = target.child source.name := by
  rw [copyPlace, found]
  rfl

theorem copyPlace_of_ne {source target : Path}
    (notFound : ∀ address, first.find target ≠ .ok (address, .directory)) :
    first.copyPlace source target = target := by
  rcases copyPlace_eq_or first source target with same | ⟨address, found⟩
  · exact same
  · exact absurd found (notFound address)

theorem find_ne_directory_of_runOn_putCopy {source : Path}
    (put : runOn (putCopy source path bytes) first = (.ok (), mid)) (address : Address) :
    first.find path ≠ .ok (address, .directory) := by
  rcases runOn_putCopy_eq_ok_iff.mp put with ⟨_, written, _⟩
  rcases runOn_writeFile_eq_ok_iff.mp written with ⟨place, located, replaces, _⟩
  rw [find, located]
  rcases place with ⟨there, entry⟩ | ⟨directory, name⟩
  · rintro same
    simp only [Except.ok.injEq, Prod.mk.injEq] at same
    simp [Place.entry?, same.2] at replaces
  · simp

theorem areSame_eq_false {left right : Path} (linkless : first.Linkless)
    (different : first.addressOf left ≠ first.addressOf right) :
    first.areSame left right = false := by
  rw [areSame]
  split
  · rename_i leftFound rightFound
    rw [address_eq_of_find linkless leftFound, address_eq_of_find linkless rightFound]
    simpa using different
  · rfl

namespace Retraces

variable {source target : Path}

/-- A file that is put somewhere the first time, and is not write-protected, is put there the second
time. -/
theorem putCopy {place : Path} (retraces : Retraces top final first second)
    (below : Below top final place)
    (readable : first.findReadable source = .ok (address, .file bytes))
    (writable : first.denies .writing (first.addressOf source) = false)
    (put : runOn (Disk.putCopy source place bytes) first = (.ok (), mid))
    (comesTo : ComesTo top mid final) :
    ∃ last, runOn (Disk.putCopy source place bytes) second = (.ok (), last) ∧
      Retraces top final mid last := by
  rcases runOn_putCopy_eq_ok_iff.mp put with ⟨written, run, rfl⟩
  have orderly := retraces.orderly
  have writes := (repeats_writeFile below bytes).advances _ _ _ run
  have allows := writes.allows orderly readable writable
  have writtenComesTo := ComesTo.of_advances (advances_copyRights below allows) comesTo
    (writes.orderly orderly)
  rcases retraces.writeFile below run writtenComesTo with ⟨last, again, writtenRetraces⟩
  rcases (writes.changes orderly).exists_find orderly.linkless (find_of_findReadable readable) with
    ⟨_, sourceFound⟩
  rcases (ensures_writeFile orderly.linkless run).found rfl with ⟨_, placeFound⟩
  rcases writtenRetraces.copyRights allows sourceFound placeFound comesTo with
    ⟨sameRights, lastRetraces⟩
  exact ⟨last, runOn_putCopy_eq_ok_iff.mpr ⟨last, again, sameRights.symm⟩, lastRetraces⟩

/-- A file is copied to the same place in both runs. -/
theorem copyPlace_eq (retraces : Retraces top final first second)
    (below : Below top final (first.copyPlace source target))
    (readable : first.findReadable source = .ok (address, .file bytes))
    (writable : first.denies .writing (first.addressOf source) = false)
    (put : runOn (Disk.putCopy source (first.copyPlace source target) bytes) first = (.ok (), mid))
    (comesTo : ComesTo top mid final) :
    second.copyPlace source target = first.copyPlace source target := by
  by_cases isDirectory : ∃ address, first.find target = .ok (address, .directory)
  · rcases isDirectory with ⟨address, found⟩
    rw [copyPlace_of_directory found, copyPlace_of_directory (retraces.find_directory found)]
  · have place : first.copyPlace source target = target :=
      copyPlace_of_ne (not_exists.mp isDirectory)
    rw [place] at below put ⊢
    rcases retraces.putCopy below readable writable put comesTo with ⟨last, secondPut, _⟩
    exact copyPlace_of_ne (find_ne_directory_of_runOn_putCopy secondPut)

/-- A directory outside has the same names in both runs. -/
theorem sortedNames_eq (retraces : Retraces top final first second) (orderly : final.Orderly)
    (steady : Steady top final first) (separate : Separate top address) :
    second.sortedNames address = first.sortedNames address := by
  refine Text.eq_of_pairwise_of_mem_iff (Text.pairwise_mergeSort _) (Text.pairwise_mergeSort _)
    (nodup_sortedNames (retraces.second_orderly orderly).nodup _)
    (nodup_sortedNames retraces.orderly.nodup _) fun name => ?_
  have outside : ¬top <+: address ++ [name] :=
    (separate.below (List.prefix_refl top) (List.prefix_append _ _)).1
  rw [mem_sortedNames_iff, mem_sortedNames_iff, retraces.get?_outside outside,
    steady _ outside]

end Retraces

theorem CopiesInto.below_copyPlace {source target : Path}
    (into : CopiesInto top final [(source, target)]) (linkless : first.Linkless)
    (found : first.find source = .ok (address, .file bytes)) :
    Below top final (first.copyPlace source target) := by
  refine Below.of_isWithin (into.inside _ (List.mem_singleton_self _)) (isWithin_copyPlace ?_ _ _)
  exact name_ne_up_of_find linkless found (by simp)

/-- A file that has been copied can be copied again. -/
theorem Retraces.copyFile {source target : Path} (retraces : Retraces top final first second)
    (into : CopiesInto top final [(source, target)])
    (readable : first.findReadable source = .ok (address, .file bytes))
    (writable : first.denies .writing (first.addressOf source) = false)
    (put : runOn (Disk.putCopy source (first.copyPlace source target) bytes) first = (.ok (), mid))
    (comesTo : ComesTo top mid final) :
    ∃ last, second.findReadable source = .ok (address, .file bytes) ∧
      second.areSame source (second.copyPlace source target) = false ∧
      runOn (Disk.putCopy source (second.copyPlace source target) bytes) second = (.ok (), last) ∧
      Retraces top final mid last := by
  have below := into.below_copyPlace retraces.orderly.linkless (find_of_findReadable readable)
  have outside : ¬top <+: final.addressOf source := (into.outside _ (List.mem_singleton_self _)).1
  have place := retraces.copyPlace_eq below readable writable put comesTo
  rcases retraces.putCopy below readable writable put comesTo with ⟨last, again, lastRetraces⟩
  refine ⟨last, retraces.findReadable_eq outside readable, ?_, place ▸ again, lastRetraces⟩
  refine areSame_eq_false retraces.linkless ?_
  rw [place, addressOf_congr retraces.current_eq, addressOf_congr retraces.current_eq]
  intro same
  exact outside (same ▸ below)

theorem Copied.advances {depth : Nat} {items : List (Path × Path)}
    (copied : Copied depth items first mid) (into : CopiesInto top final items)
    (allows : first.AllowsWriting items) : Advances top final first mid := by
  intro orderly
  refine ⟨(copied.writes orderly).weaken (fun _ _ => trivial) ?_, copied.loosens orderly allows⟩
  rintro path ⟨item, mem, within⟩
  exact Below.of_isWithin (into.inside item mem) within

/-- What has been copied can be copied again. -/
theorem Copied.again {depth : Nat} {items : List (Path × Path)}
    (copied : Copied depth items first mid) (retraces : Retraces top final first second)
    (orderly : final.Orderly) (steady : Steady top final first) (comesTo : ComesTo top mid final)
    (into : CopiesInto top final items) (allows : first.AllowsWriting items) :
    ∃ last, Copied depth items second last ∧ Retraces top final mid last := by
  induction copied generalizing second with
  | done => exact ⟨second, .done, retraces⟩
  | @file depth first mid after source target address bytes items readable different put rest ih =>
      have orderly := retraces.orderly
      have justThis : [(source, target)] ⊆ (source, target) :: items :=
        List.cons_subset_cons _ (List.nil_subset items)
      have head := into.of_subset justThis
      have restInto := into.of_subset (List.subset_cons_self _ _)
      have this : Copied depth [(source, target)] first mid := .file readable different put .done
      have advances := this.advances head (allows.of_subset justThis)
      have midOrderly := advances.orderly orderly
      have restAllows := advances.allowsWriting orderly
        (allows.of_subset (List.subset_cons_self _ _))
      have midComesTo := ComesTo.of_advances (rest.advances restInto restAllows) comesTo midOrderly
      rcases retraces.copyFile head readable allows.head put midComesTo with
        ⟨there, secondReadable, different, again, midRetraces⟩
      rcases ih midRetraces (steady.of_advances advances orderly midComesTo) comesTo restInto
        restAllows with ⟨last, restAgain, lastRetraces⟩
      exact ⟨last, .file secondReadable different again restAgain, lastRetraces⟩
  | @directory depth first mid inner after source target address items readable ensured inside rest
      insideIh restIh =>
      have firstOrderly := retraces.orderly
      have linkless := firstOrderly.linkless
      have found := find_of_findReadable readable
      have noUp : ∀ name ∈ first.sortedNames address, name ≠ Path.upName :=
        fun name mem => firstOrderly.ne_up address name (mem_sortedNames_iff.mp mem)
      have head := into.of_subset (List.cons_subset_cons (source, target) (List.nil_subset items))
      have insideInto := head.entryPairs noUp
      have restInto := into.of_subset (List.subset_cons_self _ _)
      -- The directory is made, its entries are copied, and then its rights are.
      have ensures : Repeats top final (ensureDirectory target) := repeats_ensureDirectory target
      have made := ensures.advances _ _ _ ensured
      have midOrderly := made.orderly firstOrderly
      have insideAllows := made.allowsWriting firstOrderly (allows.entryPairs noUp)
      have entries := inside.advances insideInto insideAllows
      have innerOrderly := entries.orderly midOrderly
      have toInner := trans_of (Advances top final) made entries
      have innerAllows := toInner.allows firstOrderly readable allows.head
      have rights := advances_copyRights (into.inside _ List.mem_cons_self) innerAllows
      have toRights := trans_of (Advances top final) toInner rights
      have restAllows := toRights.allowsWriting firstOrderly
        (allows.of_subset (List.subset_cons_self _ _))
      have rightsComesTo := ComesTo.of_advances (rest.advances restInto restAllows) comesTo
        (rights.orderly innerOrderly)
      have innerComesTo := ComesTo.of_advances rights rightsComesTo innerOrderly
      have midComesTo := ComesTo.of_advances entries innerComesTo midOrderly
      have midSteady := steady.of_advances made firstOrderly midComesTo
      have rightsSteady := steady.of_advances toRights firstOrderly rightsComesTo
      have isSource := address_eq_of_find linkless found
      rw [retraces.addressOf_eq] at isSource
      have separate := into.outside _ List.mem_cons_self
      have names := retraces.sortedNames_eq orderly steady (isSource ▸ separate)
      rcases (toInner.changes firstOrderly).exists_find linkless found with ⟨_, sourceFound⟩
      rcases (ensures_ensureDirectory linkless ensured).found rfl with ⟨_, targetFound⟩
      rcases (entries.changes midOrderly).exists_find midOrderly.linkless targetFound with
        ⟨_, targetFound⟩
      rcases ensures.again _ _ _ _ retraces ensured midComesTo with ⟨there, again, midRetraces⟩
      rcases insideIh midRetraces midSteady innerComesTo insideInto insideAllows with
        ⟨within, insideAgain, innerRetraces⟩
      rcases innerRetraces.copyRights innerAllows sourceFound targetFound rightsComesTo with
        ⟨sameRights, rightsRetraces⟩
      rcases restIh rightsRetraces rightsSteady comesTo restInto restAllows with
        ⟨last, restAgain, lastRetraces⟩
      rw [← names] at insideAgain
      rw [← sameRights] at restAgain
      exact ⟨last, .directory (retraces.findReadable_eq separate.1 readable) again insideAgain
        restAgain, lastRetraces⟩

end ScriptSite.Disk
