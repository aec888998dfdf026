import ScriptSite.Proofs.Disk.Apart
import ScriptSite.Proofs.Disk.Rights

/-!
# Doing the same again

What has been done to a disk can be done once more to the disk that has come of it. Directories are
there already the second time, and the same files are written over. On the way every file has the
bytes that it had in the end, or those that it had at the same point of the first run (`Retraces`).
At the end of the way these are the same, so nothing has changed (`Retraces.eq_of_end`).

The second run has the rights that there are in the end. It is denied nothing that it needs, because
on the way of the first run nothing comes to be denied (`ComesTo`).

An action that goes through in this way repeats (`Repeats`), and so does a sequence of such actions.
-/

namespace ScriptSite.Disk

theorem eq_of_lookup_eq {keys others : List (Address × Entry)} (nodup : (keys.map Prod.fst).Nodup)
    (sameKeys : others.map Prod.fst = keys.map Prod.fst)
    (same : ∀ address, others.lookup address = keys.lookup address) : others = keys := by
  induction keys generalizing others with
  | nil => simpa using sameKeys
  | cons first rest ih =>
      rcases first with ⟨key, entry⟩
      rcases others with _ | ⟨⟨otherKey, otherEntry⟩, others⟩
      · simp at sameKeys
      · simp only [List.map_cons, List.cons.injEq] at sameKeys
        rcases sameKeys with ⟨rfl, sameRest⟩
        rcases List.nodup_cons.mp nodup with ⟨notLater, laterNodup⟩
        have sameEntry := same otherKey
        simp only [List.lookup_cons_self, Option.some.injEq] at sameEntry
        have sameLater : ∀ address, others.lookup address = rest.lookup address := by
          intro address
          by_cases here : address = otherKey
          · rw [here, lookup_eq_none_iff.mpr notLater, lookup_eq_none_iff.mpr (sameRest ▸ notLater)]
          · have sameAll := same address
            rwa [List.lookup_cons, List.lookup_cons, beq_false_of_ne here] at sameAll
        rw [sameEntry, ih laterNodup sameRest sameLater]

variable {final first mid second : Disk} {top address : Address} {path source target : Path}
  {entry : Entry} {bytes : Bytes} {access : Access}

/-- Whether a path leads to an address or below it. -/
def Below (top : Address) (disk : Disk) (path : Path) : Prop :=
  top <+: disk.addressOf path

theorem Below.of_isWithin {base : Path} (below : Below top final base)
    (within : path.IsWithin base) :
    Below top final path :=
  below.trans (addressOf_prefix_of_isWithin final within)

/-- Whether an orderly disk comes to another one by writes at an address or below it, where nothing
comes to be denied. -/
def Advances (top : Address) (final before after : Disk) : Prop :=
  before.Orderly →
    Writes (fun _ => True) (Below top final) before after ∧ Loosens before after

instance (top : Address) (final : Disk) : IsPreorder Disk (Advances top final) where
  refl before _ := ⟨.nothing, refl_of Loosens before⟩
  trans _ _ _ first second orderly := by
    rcases first orderly with ⟨writes, loosens⟩
    rcases second (writes.orderly orderly) with ⟨moreWrites, moreLoosens⟩
    exact ⟨writes.trans moreWrites, trans_of Loosens loosens moreLoosens⟩

namespace Advances

theorem orderly (advances : Advances top final first mid) (orderly : first.Orderly) :
    mid.Orderly :=
  (advances orderly).1.orderly orderly

theorem loosens (advances : Advances top final first mid) (orderly : first.Orderly) :
    Loosens first mid :=
  (advances orderly).2

theorem changes (advances : Advances top final first mid) (orderly : first.Orderly) :
    Changes (fun _ => True) (Below top final) first mid :=
  (advances orderly).1.changes orderly.linkless

/-- What is read the first time and is not write-protected allows everything from then on. -/
theorem allows (advances : Advances top final first mid) (orderly : first.Orderly)
    (readable : first.findReadable source = .ok (address, entry))
    (writable : first.denies .writing (first.addressOf source) = false) : mid.Allows source :=
  allows_of_findReadable orderly.linkless readable writable (advances.loosens orderly)
    (advances.orderly orderly).linkless (advances.changes orderly).current_eq

theorem allowsWriting {items : List (Path × Path)} (advances : Advances top final first mid)
    (orderly : first.Orderly) (allows : first.AllowsWriting items) : mid.AllowsWriting items :=
  allows.mono (advances.loosens orderly) (advances.changes orderly).current_eq

end Advances

theorem advances_copyRights (below : Below top final target) (allows : first.Allows source) :
    Advances top final first (first.copyRights source target) :=
  fun _ => ⟨.rights .nothing below, loosens_copyRights allows target⟩

/-- Whether a disk comes to another one while files are written at an address or below it only, and
nothing comes to be denied. -/
structure ComesTo (top : Address) (first final : Disk) : Prop extends
    Changes (fun _ => True) (Below top final) first final where
  loosens : Loosens first final

namespace ComesTo

theorem refl (top : Address) (final : Disk) : ComesTo top final final :=
  ⟨.refl _ _ _, refl_of Loosens final⟩

theorem of_advances (advances : Advances top final first mid) (comesTo : ComesTo top mid final)
    (orderly : first.Orderly) : ComesTo top first final :=
  ⟨(advances.changes orderly).trans comesTo.toChanges orderly.linkless,
    trans_of Loosens (advances.loosens orderly) comesTo.loosens⟩

end ComesTo

/-- Whether, at a point of a run that comes to a disk in the end, a second run from that disk has
come to the same point: it has all that there is in the end, with the same rights, outside of an
address it is what it was, and inside every entry is the one in the end or the one at this point. -/
structure Retraces (top : Address) (final first second : Disk) : Prop where
  orderly : first.Orderly
  comesTo : ComesTo top first final
  current_eq : second.current = final.current
  denied_eq : second.denied = final.denied
  reach_eq : second.reach = final.reach
  keys : second.entries.map Prod.fst = final.entries.map Prod.fst
  outside : ∀ address, ¬top <+: address →
    second.entries.lookup address = final.entries.lookup address
  stands : ∀ address, second.get? address = final.get? address ∨
    second.get? address = first.get? address

namespace Retraces

theorem get?_eq_none_iff (retraces : Retraces top final first second) :
    second.get? address = none ↔ final.get? address = none := by
  by_cases root : address = []
  · simp [root, get?]
  · rw [← not_iff_not, ← ne_eq, ← ne_eq, ← mem_keys_iff root, ← mem_keys_iff root, retraces.keys]

/-- Where an entry is at this point, it is the one of the end or has been there before. -/
theorem stood_of_get? (retraces : Retraces top final first second)
    (there : final.get? address = some entry) :
    second.get? address = some entry ∨
      ∃ bytes old, entry = .file bytes ∧ second.get? address = some (.file old) := by
  rcases retraces.stands address with same | same
  · exact Or.inl (same.trans there)
  · have stood : first.get? address ≠ none := by
      rw [← same, ne_eq, retraces.get?_eq_none_iff, there]
      simp
    cases retraces.comesTo.change address with
    | nothing unchanged => exact Or.inl (same.trans (unchanged.symm.trans there))
    | directory absent => exact absurd absent stood
    | file replaces new =>
        rw [there, Option.some.injEq] at new
        rcases replaces with absent | ⟨old, isFile⟩
        · exact absurd absent stood
        · exact Or.inr ⟨_, old, new, same.trans isFile⟩

theorem keeps (retraces : Retraces top final first second) : KeepsDirectories first second where
  current_eq := retraces.current_eq.trans retraces.comesTo.current_eq
  directory := by
    intro address isDirectory
    have last := retraces.comesTo.keeps.directory _ isDirectory
    rcases retraces.stood_of_get? last with same | ⟨_, _, isFile, _⟩
    · exact same
    · simp at isFile

theorem linkless (retraces : Retraces top final first second) : second.Linkless := by
  intro address target isLink
  rcases retraces.stands address with same | same
  · exact retraces.comesTo.linkless retraces.orderly.linkless address target (same ▸ isLink)
  · exact retraces.orderly.linkless address target (same ▸ isLink)

theorem second_orderly (retraces : Retraces top final first second) (orderly : final.Orderly) :
    second.Orderly where
  linkless := retraces.linkless
  nodup := retraces.keys ▸ orderly.nodup
  ne_up := by
    intro directory name there
    refine orderly.ne_up directory name ?_
    rwa [ne_eq, ← retraces.get?_eq_none_iff]

theorem addressOf_eq (retraces : Retraces top final first second) (path : Path) :
    first.addressOf path = final.addressOf path :=
  (addressOf_congr retraces.comesTo.current_eq path).symm

/-- What has not been denied the first time is not denied the second time. -/
theorem denies_eq_false (retraces : Retraces top final first second)
    (allowed : first.denies access address = false) : second.denies access address = false := by
  rw [denies, retraces.denied_eq]
  exact retraces.comesTo.loosens.denies_eq_false allowed

theorem get?_outside (retraces : Retraces top final first second) (outside : ¬top <+: address) :
    second.get? address = final.get? address := by
  rw [get?, get?, retraces.outside address outside]

theorem find_directory (retraces : Retraces top final first second)
    (found : first.find path = .ok (address, .directory)) :
    second.find path = .ok (address, .directory) :=
  find_mono retraces.orderly.linkless retraces.linkless retraces.keeps found

/-- What a path finds outside is the same in both runs. -/
theorem find_eq (retraces : Retraces top final first second)
    (outside : ¬top <+: final.addressOf path) (found : first.find path = .ok (address, entry)) :
    second.find path = .ok (address, entry) := by
  by_cases isDirectory : entry = .directory
  · rw [isDirectory] at found ⊢
    exact retraces.find_directory found
  · have firstLinkless := retraces.orderly.linkless
    have stood := get?_of_find firstLinkless found isDirectory
    refine find_of_get? firstLinkless retraces.linkless retraces.keeps found isDirectory ?_
    rw [← retraces.addressOf_eq, ← address_eq_of_find firstLinkless found] at outside
    rw [retraces.get?_outside outside]
    cases retraces.comesTo.change address with
    | nothing same => exact same.trans stood
    | directory absent => simp [stood] at absent
    | file _ _ isBelow lastFound =>
        rw [address_eq_of_find (retraces.comesTo.linkless firstLinkless) lastFound] at outside
        exact absurd isBelow outside

/-- What can be read outside can be read in both runs, and is the same. -/
theorem findReadable_eq (retraces : Retraces top final first second)
    (outside : ¬top <+: final.addressOf path)
    (readable : first.findReadable path = .ok (address, entry)) :
    second.findReadable path = .ok (address, entry) := by
  rcases findReadable_eq_ok_iff.mp readable with ⟨found, allowed⟩
  exact findReadable_eq_ok_iff.mpr
    ⟨retraces.find_eq outside found, retraces.denies_eq_false allowed⟩

/-- Directories that are made the first time are there the second time. -/
theorem of_made (retraces : Retraces top final first second)
    (made : Writes (fun _ => True) (fun _ => False) first mid) (comesTo : ComesTo top mid final) :
    Retraces top final mid second := by
  refine ⟨made.orderly retraces.orderly, comesTo, retraces.current_eq, retraces.denied_eq,
    retraces.reach_eq, retraces.keys, retraces.outside, ?_⟩
  intro address
  rcases retraces.stands address with same | same
  · exact Or.inl same
  · cases (made.changes retraces.orderly.linkless).change address with
    | nothing unchanged => exact Or.inr (same.trans unchanged.symm)
    | directory absent new =>
        have last := comesTo.keeps.directory _ new
        rw [absent, retraces.get?_eq_none_iff, last] at same
        simp at same
    | file _ _ isWritten => exact isWritten.elim

/-- Where there is a file in the end, a path that leads there the first time finds a file the second
time. -/
theorem locate_file (retraces : Retraces top final first second) {place : Place}
    (located : first.locate true path = .ok place)
    (notDirectory : ∀ address, place ≠ .found address .directory)
    (last : final.get? place.address = some (.file bytes)) :
    ∃ old, second.locate true path = .ok (.found place.address (.file old)) := by
  have there : ∃ old, second.get? place.address = some (.file old) := by
    rcases retraces.stood_of_get? last with same | ⟨_, old, _, isOld⟩
    · exact ⟨bytes, same⟩
    · exact ⟨old, isOld⟩
  rcases there with ⟨old, there⟩
  rcases (locate_eq_ok_iff retraces.orderly.linkless true).mp located with ⟨usable, leads⟩
  exact ⟨old, (locate_eq_ok_iff retraces.linkless true).mpr
    ⟨usable, leads.of_get? retraces.keeps notDirectory there⟩⟩

/-- The same file is set in both runs. -/
theorem set (retraces : Retraces top final first second) (below : top <+: address)
    (inside : address ≠ []) (there : second.get? address ≠ none)
    (orderly : (first.set address (.file bytes)).Orderly)
    (comesTo : ComesTo top (first.set address (.file bytes)) final) :
    Retraces top final (first.set address (.file bytes)) (second.set address (.file bytes)) where
  orderly := orderly
  comesTo := comesTo
  current_eq := retraces.current_eq
  denied_eq := (denied_set_of_get? there _).trans retraces.denied_eq
  reach_eq := retraces.reach_eq
  keys := by
    rw [Disk.set, map_fst_setIn, if_pos ((mem_keys_iff inside).mpr there), retraces.keys]
  outside := by
    intro other outside
    have different : other ≠ address := by
      rintro rfl
      exact outside below
    rw [Disk.set, lookup_setIn_of_ne different, retraces.outside other outside]
  stands := by
    intro other
    by_cases same : other = address
    · rw [same, get?_set_self inside, get?_set_self inside]
      exact Or.inr rfl
    · rw [get?_set_of_ne same, get?_set_of_ne same]
      exact retraces.stands other

/-- A file that is written the first time is written over the second time. -/
theorem writeFile (retraces : Retraces top final first second) (below : Below top final path)
    (written : runOn (Disk.writeFile path bytes) first = (.ok (), mid))
    (comesTo : ComesTo top mid final) :
    ∃ last, runOn (Disk.writeFile path bytes) second = (.ok (), last) ∧
      Retraces top final mid last := by
  have linkless := retraces.orderly.linkless
  have midOrderly := (writesOnly_writeFile _ _ _ _ _ written retraces.orderly).orderly
    retraces.orderly
  rcases runOn_writeFile_eq_ok_iff.mp written with ⟨place, located, replaces, allowed, rfl⟩
  have notDirectory := Place.ne_directory replaces
  have self := (find_set linkless (.file bytes) located notDirectory (by simp)).2.1
  have lastFile : ∃ last, final.get? place.address = some (.file last) := by
    cases comesTo.change place.address with
    | nothing same => exact ⟨bytes, same.trans self⟩
    | directory absent => simp [self] at absent
    | file _ new => exact ⟨_, new⟩
  rcases lastFile with ⟨last, lastFile⟩
  rcases retraces.locate_file located notDirectory lastFile with ⟨old, secondLocated⟩
  have there : second.get? place.address = some (.file old) :=
    get?_of_locate retraces.linkless secondLocated (by simp)
  have inside : place.address ≠ [] := by
    intro root
    simp [root, get?] at there
  have placeBelow : top <+: place.address := by
    rw [address_eq_of_locate linkless located, retraces.addressOf_eq]
    exact below
  -- What has just been written may be written again.
  have mayWrite :
      (first.set place.address (.file bytes)).denies .writing place.address = false := by
    rcases allowed with absent | allowed
    · exact denies_set_self ((get?_of_locate linkless located notDirectory).trans absent) _ _
    · exact (loosens_set first place.address (.file bytes)).denies_eq_false allowed
  have secondMayWrite : second.denies .writing place.address = false := by
    rw [denies, retraces.denied_eq]
    exact comesTo.loosens.denies_eq_false mayWrite
  refine ⟨_, runOn_writeFile_eq_ok_iff.mpr
    ⟨_, secondLocated, by simp [Place.entry?], Or.inr secondMayWrite, rfl⟩, ?_⟩
  exact retraces.set placeBelow inside (there ▸ Option.some_ne_none _) midOrderly comesTo

theorem allows_of_free (retraces : Retraces top final first second)
    (free : ∀ access, final.denies access (final.addressOf path) = false) :
    second.Allows path := by
  intro there now found access
  rw [denies, retraces.denied_eq, address_eq_of_find retraces.linkless found,
    addressOf_congr retraces.current_eq]
  exact free access

/-- The rights that are copied the first time are there the second time. -/
theorem copyRights {copy : Address} {other : Entry} (retraces : Retraces top final first second)
    (allows : first.Allows source) (sourceFound : first.find source = .ok (address, entry))
    (targetFound : first.find target = .ok (copy, other))
    (comesTo : ComesTo top (first.copyRights source target) final) :
    second.copyRights source target = second ∧
      Retraces top final (first.copyRights source target) second := by
  have linkless := retraces.orderly.linkless
  have sourceFree : ∀ access, final.denies access (final.addressOf source) = false := by
    intro access
    rw [← retraces.addressOf_eq, ← address_eq_of_find linkless sourceFound]
    exact retraces.comesTo.loosens.denies_eq_false (allows _ _ sourceFound access)
  have targetFree : ∀ access, final.denies access (final.addressOf target) = false := by
    intro access
    rw [← retraces.addressOf_eq, ← address_eq_of_find linkless targetFound]
    refine comesTo.loosens.denies_eq_false ?_
    rw [denies_copyRights_of_find sourceFound targetFound]
    exact allows _ _ sourceFound access
  exact ⟨copyRights_eq_self (retraces.allows_of_free sourceFree)
    (retraces.allows_of_free targetFree),
    { retraces with orderly := retraces.orderly.copyRights source target, comesTo }⟩

/-- At its end the second run has changed nothing. -/
theorem eq_of_end (retraces : Retraces top final final second) (inside : top ≠ []) :
    second = final := by
  have entries : second.entries = final.entries := by
    refine eq_of_lookup_eq retraces.orderly.nodup retraces.keys fun address => ?_
    by_cases below : top <+: address
    · have same := retraces.stands address
      have notRoot : address ≠ [] := by
        rintro rfl
        exact inside (List.prefix_nil.mp below)
      rwa [or_self, get?, get?, if_neg notRoot, if_neg notRoot] at same
    · exact retraces.outside address below
  rcases second with ⟨_, _, _, _⟩
  rcases final with ⟨_, _, _, _⟩
  rw [Disk.mk.injEq]
  exact ⟨entries, retraces.current_eq, retraces.denied_eq, retraces.reach_eq⟩

end Retraces

theorem retraces_start (top : Address) (orderly : first.Orderly)
    (comesTo : ComesTo top first final) :
    Retraces top final first final :=
  ⟨orderly, comesTo, rfl, rfl, rfl, rfl, fun _ _ => rfl, fun _ => Or.inl rfl⟩

/-- Whether an action that goes through on the way to a disk goes through once more on the way from
that disk, with the same outcome. -/
structure Repeats {ε α : Type} (top : Address) (final : Disk) (action : DiskAction ε α) :
    Prop where
  advances : Respects (Advances top final) action
  again : ∀ first mid second a, Retraces top final first second →
    runOn action first = (.ok a, mid) → ComesTo top mid final →
      ∃ last, runOn action second = (.ok a, last) ∧ Retraces top final mid last

namespace Repeats

variable {ε ε' α β : Type} {action : DiskAction ε α} {next : α → DiskAction ε β}

theorem comesTo (repeats : Repeats top final action) {outcome : Except ε α}
    (orderly : first.Orderly)
    (run : runOn action first = (outcome, mid)) (comesTo : ComesTo top mid final) :
    ComesTo top first final :=
  .of_advances (repeats.advances _ _ _ run) comesTo orderly

/-- An action that only looks repeats if it finds the same in both runs. -/
theorem of_agrees (looks : OnlyLooks action)
    (agrees : ∀ first mid second a, Retraces top final first second →
      runOn action first = (.ok a, mid) → Agrees action first second) :
    Repeats top final action where
  advances := .of_onlyLooks looks
  again := by
    intro first mid second a retraces run _
    have same := looks.eq_of_runOn run
    subst same
    rcases agrees _ _ _ _ retraces run with ⟨outcome, firstRun, secondRun⟩
    rw [firstRun, Prod.mk.injEq] at run
    exact ⟨second, run.1 ▸ secondRun, retraces⟩

theorem pure (a : α) : Repeats top final (Pure.pure a : DiskAction ε α) :=
  of_agrees (fun _ => rfl) fun _ _ _ _ _ _ => ⟨_, rfl, rfl⟩

theorem adapt (f : ε → ε') (repeats : Repeats top final action) :
    Repeats top final (ExceptT.adapt f action) where
  advances := repeats.advances.adapt
  again := by
    intro first mid second a retraces run comesTo
    rcases repeats.again _ _ _ _ retraces (runOn_adapt_eq_ok_iff.mp run) comesTo with
      ⟨last, again, retraces⟩
    exact ⟨last, runOn_adapt_eq_ok_iff.mpr again, retraces⟩

theorem bind (repeats : Repeats top final action) (nextRepeats : ∀ a, Repeats top final (next a)) :
    Repeats top final (action >>= next) where
  advances := repeats.advances.bind fun a => (nextRepeats a).advances
  again := by
    intro first after second b retraces run comesTo
    rcases runOn_bind_eq_ok_iff.mp run with ⟨a, mid, head, rest⟩
    have midOrderly := (repeats.advances _ _ _ head).orderly retraces.orderly
    have midComesTo := (nextRepeats a).comesTo midOrderly rest comesTo
    rcases repeats.again _ _ _ _ retraces head midComesTo with ⟨there, headAgain, retraces⟩
    rcases (nextRepeats a).again _ _ _ _ retraces rest comesTo with ⟨last, restAgain, retraces⟩
    exact ⟨last, runOn_bind_eq_ok_iff.mpr ⟨a, there, headAgain, restAgain⟩, retraces⟩

theorem mapM {f : β → DiskAction ε α} {bs : List β} (repeats : ∀ b ∈ bs, Repeats top final (f b)) :
    Repeats top final (bs.mapM f) := by
  induction bs with
  | nil =>
      rw [List.mapM_nil]
      exact .pure _
  | cons b bs ih =>
      rw [List.mapM_cons]
      refine (repeats b List.mem_cons_self).bind fun _ => ?_
      exact (ih fun b mem => repeats b (List.mem_cons_of_mem _ mem)).bind fun _ => .pure _

end Repeats

/-- Actions that make directories advance. -/
theorem advances_of_writesOnly {ε α : Type} {action : DiskAction ε α} {made : Path → Prop}
    (writes : WritesOnly made (fun _ => False) action) : Respects (Advances top final) action := by
  intro before outcome after run orderly
  have evolves := writes _ _ _ run orderly
  exact ⟨evolves.weaken (fun _ _ => trivial) (fun _ => False.elim), evolves.loosens_of_unwritten⟩

theorem repeats_ensureDirectory (path : Path) : Repeats top final (ensureDirectory path) where
  advances := advances_of_writesOnly (writesOnly_ensureDirectory path)
  again := by
    intro first mid second _ retraces run comesTo
    have made := (writesOnly_ensureDirectory path _ _ _ run retraces.orderly).weaken
      (fun _ _ => trivial) (fun _ => id)
    rcases (ensures_ensureDirectory retraces.orderly.linkless run).found rfl with ⟨address, found⟩
    have retraces := retraces.of_made made comesTo
    exact ⟨second, runOn_ensureDirectory_of_find retraces.linkless (retraces.find_directory found),
      retraces⟩

theorem repeats_ensureDirectories (path : Path) : Repeats top final (ensureDirectories path) where
  advances := advances_of_writesOnly (writesOnly_ensureDirectories path)
  again := by
    intro first mid second _ retraces run comesTo
    have made := (writesOnly_ensureDirectories path _ _ _ run retraces.orderly).weaken
      (fun _ _ => trivial) (fun _ => id)
    rcases (ensures_ensureDirectories retraces.orderly.linkless run).found rfl with
      ⟨address, found⟩
    have retraces := retraces.of_made made comesTo
    have secondFound := retraces.find_directory found
    exact ⟨second, runOn_ensureDirectories_of_find retraces.linkless secondFound, retraces⟩

theorem repeats_writeFile (below : Below top final path) (bytes : Bytes) :
    Repeats top final (writeFile path bytes) where
  advances := by
    intro before outcome after run orderly
    refine ⟨(writesOnly_writeFile path bytes _ _ _ run orderly).weaken (fun _ => False.elim) ?_,
      loosens_writeFile path bytes _ _ _ run⟩
    rintro _ rfl
    exact below
  again := fun _ _ _ _ retraces run comesTo => retraces.writeFile below run comesTo

end ScriptSite.Disk
