import ScriptSite.Proofs.Disk.Overlay

/-!
# Where copies land

A file is copied to its place below the target, but if a directory stands there it goes into that
directory under its own name (`landing`). When sources have been copied to targets that are separate
from each other, every file of the sources is where it lands, every directory of theirs is below its
target, and all other files are what they were (`Landed`, `Copied.landed`).

Other than `Overlaid` this holds whatever stood at the targets.
-/

namespace ScriptSite.Disk

variable {before mid inner after : Disk} {source target : Path} {item : Path × Path}
  {items : List (Path × Path)} {top address rest : Address} {depth : Nat} {bytes : Bytes}
  {name : Text}

/-- Where a file below a source is copied to. -/
def landing (disk : Disk) (item : Path × Path) (rest : Address) : Address :=
  let place := disk.addressOf item.2 ++ rest
  if disk.get? place = some .directory then
    place ++ (disk.addressOf item.1 ++ rest).getLast?.toList
  else place

/-- Whether sources have been copied to where their files land and their directories are to be, and
every other file is what it was. -/
structure Landed (items : List (Path × Path)) (before after : Disk) : Prop where
  readable : ∀ item ∈ items, ∀ rest,
    before.get? (before.addressOf item.1 ++ rest) ≠ some .unreadable
  file : ∀ item ∈ items, ∀ rest bytes,
    before.get? (before.addressOf item.1 ++ rest) = some (.file bytes) →
      after.get? (before.landing item rest) = some (.file bytes)
  directory : ∀ item ∈ items, ∀ rest,
    before.get? (before.addressOf item.1 ++ rest) = some .directory →
      after.get? (before.addressOf item.2 ++ rest) = some .directory
  kept : ∀ address bytes, before.get? address = some (.file bytes) →
    (∀ item ∈ items, ∀ rest other,
      before.get? (before.addressOf item.1 ++ rest) = some (.file other) →
        address ≠ before.landing item rest) →
      after.get? address = some (.file bytes)

theorem Landed.copyRights (landed : Landed items before after) (source target : Path) :
    Landed items before (after.copyRights source target) :=
  ⟨landed.readable, landed.file, landed.directory, landed.kept⟩

theorem addressOf_prefix_landing (disk : Disk) (item : Path × Path) (rest : Address) :
    disk.addressOf item.2 <+: disk.landing item rest := by
  simp only [landing]
  split
  · rw [List.append_assoc]
    exact List.prefix_append _ _
  · exact List.prefix_append _ _

theorem landing_congr (same : after.current = before.current)
    (unchanged : after.get? (before.addressOf item.2 ++ rest) =
      before.get? (before.addressOf item.2 ++ rest)) :
    after.landing item rest = before.landing item rest := by
  simp only [landing, addressOf_congr same, unchanged]

/-- An entry of a directory lands where it lands as a part of the directory. -/
theorem IsMade.landing_child (made : IsMade target before mid) (notUp : name ≠ Path.upName)
    (source : Path) (rest : Address) :
    mid.landing (source.child name, target.child name) rest =
      before.landing (source, target) (name :: rest) := by
  have elsewhere : mid.get? (before.addressOf target ++ name :: rest) =
      before.get? (before.addressOf target ++ name :: rest) := by
    refine made.elsewhere _ ?_
    simp
  simp only [landing, made.addressOf_child_append notUp, elsewhere]

/-- Items whose targets are separate are copied one after the other. -/
theorem Landed.cons (first : Landed [item] before mid) (others : Landed items mid after)
    (same : mid.current = before.current)
    (sources : ∀ other ∈ items, ∀ rest, mid.get? (before.addressOf other.1 ++ rest) =
      before.get? (before.addressOf other.1 ++ rest))
    (targets : ∀ other ∈ items, ∀ rest, mid.get? (before.addressOf other.2 ++ rest) =
      before.get? (before.addressOf other.2 ++ rest))
    (stays : ∀ address, before.addressOf item.2 <+: address →
      after.get? address = mid.get? address) :
    Landed (item :: items) before after := by
  have lands : ∀ other ∈ items, ∀ rest, mid.landing other rest = before.landing other rest :=
    fun other mem rest => landing_congr same (targets other mem rest)
  refine ⟨?_, ?_, ?_, ?_⟩
  · intro other mem rest
    rcases List.mem_cons.mp mem with rfl | mem
    · exact first.readable _ (List.mem_singleton_self _) rest
    · rw [← sources other mem rest, ← addressOf_congr same]
      exact others.readable other mem rest
  · intro other mem rest bytes there
    rcases List.mem_cons.mp mem with rfl | mem
    · rw [stays _ (addressOf_prefix_landing before other rest)]
      exact first.file _ (List.mem_singleton_self _) rest bytes there
    · rw [← sources other mem rest, ← addressOf_congr same] at there
      rw [← lands other mem rest]
      exact others.file other mem rest bytes there
  · intro other mem rest there
    rcases List.mem_cons.mp mem with rfl | mem
    · rw [stays _ (List.prefix_append _ rest)]
      exact first.directory _ (List.mem_singleton_self _) rest there
    · rw [← sources other mem rest, ← addressOf_congr same] at there
      rw [← addressOf_congr same]
      exact others.directory other mem rest there
  · intro address bytes stood apart
    refine others.kept address bytes (first.kept address bytes stood ?_) ?_
    · intro other mem
      rw [List.mem_singleton] at mem
      exact apart other (by simp [mem])
    · intro other mem rest bytes there
      rw [addressOf_congr same, sources other mem rest] at there
      rw [lands other mem rest]
      exact apart other (List.mem_cons_of_mem _ mem) rest bytes there

/-- The last name of the path of a file is that of its address. -/
theorem getLast?_addressOf_of_find (linkless : before.Linkless)
    (found : before.find source = .ok (address, .file bytes)) :
    (before.addressOf source).getLast? = some source.name := by
  have notUp := name_ne_up_of_find linkless found (by simp)
  rcases List.eq_nil_or_concat source.names with none | ⟨front, last, names⟩
  · have leads := ((find_eq_ok_iff linkless).mp found).2
    rw [LeadsTo, none] at leads
    cases leads
  · rw [List.concat_eq_append] at names
    have isChild : source = { source with names := front : Path }.child last := by
      rw [Path.child, ← names]
    have isLast : source.name = last := by simp [Path.name, names]
    rw [isLast] at notUp ⊢
    rw [isChild, addressOf_child notUp]
    simp

/-- A file is put where it lands. -/
theorem landing_eq_of_put (isTree : before.IsTree) (linkless : before.Linkless)
    (found : before.find source = .ok (address, .file bytes))
    (put : runOn (putCopy source (before.copyPlace source target) bytes) before = (.ok (), after)) :
    before.landing (source, target) [] = before.addressOf (before.copyPlace source target) := by
  have notUp := name_ne_up_of_find linkless found (by simp)
  have last := getLast?_addressOf_of_find linkless found
  rcases copyPlace_eq_or before source target with same | ⟨there, targetFound⟩
  · rw [same] at put ⊢
    rcases runOn_putCopy_eq_ok_iff.mp put with ⟨_, written, _⟩
    rcases runOn_writeFile_eq_ok_iff.mp written with ⟨place, located, replaces, _⟩
    have free : before.get? (before.addressOf target) ≠ some .directory := by
      rw [← address_eq_of_locate linkless located]
      exact get?_ne_directory_of_locate linkless located (Place.ne_directory replaces)
    simp [landing, free]
  · have stands := isTree.get?_of_find linkless targetFound
    rw [address_eq_of_find linkless targetFound] at stands
    have inside : before.copyPlace source target = target.child source.name := by
      simp [copyPlace, targetFound]
    simp [landing, stands, inside, addressOf_child notUp, last]

theorem landed_singleton_iff :
    Landed [item] before after ↔
      (∀ rest, before.get? (before.addressOf item.1 ++ rest) ≠ some .unreadable) ∧
        (∀ rest bytes, before.get? (before.addressOf item.1 ++ rest) = some (.file bytes) →
          after.get? (before.landing item rest) = some (.file bytes)) ∧
        (∀ rest, before.get? (before.addressOf item.1 ++ rest) = some .directory →
          after.get? (before.addressOf item.2 ++ rest) = some .directory) ∧
        ∀ address bytes, before.get? address = some (.file bytes) →
          (∀ rest other, before.get? (before.addressOf item.1 ++ rest) = some (.file other) →
            address ≠ before.landing item rest) → after.get? address = some (.file bytes) := by
  constructor
  · rintro ⟨readable, file, directory, kept⟩
    exact ⟨by simpa using readable, by simpa using file, by simpa using directory,
      by simpa using kept⟩
  · rintro ⟨readable, file, directory, kept⟩
    exact ⟨by simpa using readable, by simpa using file, by simpa using directory,
      by simpa using kept⟩

/-- A file is copied to where it lands, and nothing else is changed. -/
theorem landed_file (isTree : before.IsTree) (linkless : before.Linkless)
    (found : before.find source = .ok (address, .file bytes))
    (put : runOn (putCopy source (before.copyPlace source target) bytes) before = (.ok (), after)) :
    Landed [(source, target)] before after := by
  have lands := landing_eq_of_put isTree linkless found put
  have stands := isTree.get?_of_find linkless found
  rw [address_eq_of_find linkless found] at stands
  rcases get?_of_runOn_putCopy linkless put with ⟨self, elsewhere⟩
  rw [← lands] at self elsewhere
  rw [landed_singleton_iff]
  refine ⟨?_, ?_, ?_, ?_⟩
  · intro rest there
    have isFile := (isTree.eq_of_append_of_file stands there).2
    simp at isFile
  · intro rest other there
    rcases isTree.eq_of_append_of_file stands there with ⟨rfl, same⟩
    rw [same, self]
  · intro rest there
    have isFile := (isTree.eq_of_append_of_file stands there).2
    simp at isFile
  · intro other bytes stood apart
    rw [elsewhere other (apart [] _ (by rwa [List.append_nil])), stood]

/-- A directory is copied by being made, and by copying what is in it. -/
theorem landed_directory (orderly : before.Orderly) (isTree : before.IsTree)
    (into : CopiesInto top before [(source, target)])
    (found : before.find source = .ok (address, .directory))
    (ensured : runOn (ensureDirectory target) before = (.ok (), mid))
    (keeps : KeepsDirectories mid after)
    (inside : Landed (entryPairs source target (before.sortedNames address)) mid after) :
    Landed [(source, target)] before after := by
  have made := isMade_of_runOn_ensureDirectory orderly isTree ensured
  have stands := isTree.get?_of_find orderly.linkless found
  rw [address_eq_of_find orderly.linkless found] at stands inside
  -- What is below the source is below one of its entries.
  have entryOf : ∀ name rest entry,
      before.get? (before.addressOf source ++ name :: rest) = some entry →
        name ≠ Path.upName ∧ (source.child name, target.child name) ∈
          entryPairs source target (before.sortedNames (before.addressOf source)) ∧
            mid.get? (mid.addressOf (source.child name) ++ rest) = some entry := by
    intro name rest entry there
    have isEntry := isTree.mem_sortedNames (there ▸ Option.some_ne_none entry)
    have notUp := orderly.ne_up _ name (mem_sortedNames_iff.mp isEntry)
    refine ⟨notUp, List.mem_map_of_mem isEntry, ?_⟩
    rw [made.addressOf_child_append notUp, made.get?_source into, there]
  rw [landed_singleton_iff]
  refine ⟨?_, ?_, ?_, ?_⟩
  · intro rest there
    cases rest with
    | nil => simp [stands] at there
    | cons name rest =>
        rcases entryOf name rest _ there with ⟨_, mem, midThere⟩
        exact inside.readable _ mem rest midThere
  · intro rest bytes there
    cases rest with
    | nil => simp [stands] at there
    | cons name rest =>
        rcases entryOf name rest _ there with ⟨notUp, mem, midThere⟩
        rw [← made.landing_child notUp]
        exact inside.file _ mem rest bytes midThere
  · intro rest there
    cases rest with
    | nil =>
        rw [List.append_nil]
        exact keeps.directory _ made.there
    | cons name rest =>
        rcases entryOf name rest _ there with ⟨notUp, mem, midThere⟩
        have below := inside.directory _ mem rest midThere
        rwa [made.addressOf_child_append notUp] at below
  · intro other bytes stood apart
    have midStood : mid.get? other = some (.file bytes) := by
      have changes := (ensures_ensureDirectory orderly.linkless ensured).changes
      rcases changes.get?_eq_or_made orderly.linkless (fun _ => False.elim) with same | ⟨absent, _⟩
      · exact same.trans stood
      · simp [stood] at absent
    refine inside.kept other bytes midStood ?_
    intro item mem rest moved there
    rcases List.mem_map.mp mem with ⟨name, nameMem, rfl⟩
    have notUp := orderly.ne_up _ name (mem_sortedNames_iff.mp nameMem)
    rw [made.addressOf_child_append notUp, made.get?_source into] at there
    rw [made.landing_child notUp]
    exact apart (name :: rest) moved there

/-- Copying changes nothing outside of the targets. -/
theorem Copied.get?_eq (copied : Copied depth items before after) (orderly : before.Orderly)
    (outside : ∀ item ∈ items, ¬before.addressOf item.2 <+: address) :
    after.get? address = before.get? address := by
  refine (copied.writes orderly).get?_eq orderly.linkless ?_
  rintro path isWritten rfl
  rw [or_self] at isWritten
  rcases isWritten with ⟨item, mem, within⟩
  exact outside item mem (addressOf_prefix_of_isWithin before within)

/-- Whether the targets of items are separate from each other. -/
def TargetsSeparate (disk : Disk) (items : List (Path × Path)) : Prop :=
  items.Pairwise fun item other => Separate (disk.addressOf item.2) (disk.addressOf other.2)

theorem TargetsSeparate.congr (separate : TargetsSeparate before items)
    (same : after.current = before.current) : TargetsSeparate after items := by
  simpa only [TargetsSeparate, addressOf_congr same] using separate

theorem separate_append_singleton {other : Text} (different : name ≠ other) (address : Address) :
    Separate (address ++ [name]) (address ++ [other]) := by
  constructor
  · intro isPrefix
    simp [different] at isPrefix
  · intro isPrefix
    simp [Ne.symm different] at isPrefix

/-- The entries of a directory are copied to separate places. -/
theorem targetsSeparate_entryPairs {names : List Text} (nodup : names.Nodup)
    (noUp : ∀ name ∈ names, name ≠ Path.upName) (disk : Disk) (source target : Path) :
    TargetsSeparate disk (entryPairs source target names) := by
  rw [TargetsSeparate, entryPairs, List.pairwise_map]
  refine nodup.pairwise_of_forall_ne fun name mem other otherMem different => ?_
  rw [addressOf_child (noUp name mem), addressOf_child (noUp other otherMem)]
  exact separate_append_singleton different _

/-- Copying the first of several items leaves alone what the others are copied from and to, and
copying the others leaves alone what the first was copied to. -/
theorem Landed.cons_of_copied (first : Landed [item] before mid) (others : Landed items mid after)
    (firstCopied : Copied depth [item] before mid) (othersCopied : Copied depth items mid after)
    (orderly : before.Orderly) (into : CopiesInto top before (item :: items))
    (separate : TargetsSeparate before (item :: items)) : Landed (item :: items) before after := by
  have writes := firstCopied.writes orderly
  have same := (writes.changes orderly.linkless).current_eq
  have apart := (List.pairwise_cons.mp separate).1
  refine first.cons others same ?_ ?_ ?_
  · intro other mem rest
    refine firstCopied.get?_eq orderly fun this thisMem below => ?_
    rw [List.mem_singleton] at thisMem
    rw [thisMem] at below
    exact into.notMem_top (List.mem_cons_of_mem _ mem) rest
      ((into.inside item List.mem_cons_self).trans below)
  · intro other mem rest
    refine firstCopied.get?_eq orderly fun this thisMem below => ?_
    rw [List.mem_singleton] at thisMem
    rw [thisMem] at below
    exact ((apart other mem).below (List.prefix_refl _) (List.prefix_append _ rest)).1 below
  · intro address below
    refine othersCopied.get?_eq (writes.orderly orderly) fun other mem otherBelow => ?_
    rw [addressOf_congr same] at otherBelow
    exact ((apart other mem).below below (List.prefix_refl _)).2 otherBelow

/-- When sources outside of a directory have been copied to separate places inside of it, their
files are where they land. -/
theorem Copied.landed (copied : Copied depth items before after) (orderly : before.Orderly)
    (isTree : before.IsTree) (into : CopiesInto top before items)
    (separate : TargetsSeparate before items) : Landed items before after := by
  induction copied with
  | done => exact ⟨by simp, by simp, by simp, fun _ _ stood _ => stood⟩
  | @file depth before mid after source target address bytes items readable different put rest ih =>
      have found := find_of_findReadable readable
      have linkless := orderly.linkless
      have writes := writesOnly_putCopy _ _ _ _ _ _ put orderly
      have same := (writes.changes linkless).current_eq
      have others := ih (writes.orderly orderly) (writes.isTree isTree linkless)
        ((into.of_subset (List.subset_cons_self _ _)).congr same)
        (TargetsSeparate.congr separate.tail same)
      exact (landed_file isTree linkless found put).cons_of_copied others
        (.file readable different put .done) rest orderly into separate
  | @directory depth before mid inner after source target address items readable ensured inside rest
      insideIh restIh =>
      have found := find_of_findReadable readable
      have linkless := orderly.linkless
      have head := into.of_subset (List.cons_subset_cons _ (List.nil_subset _))
      have writes := writesOnly_ensureDirectory _ _ _ _ ensured orderly
      have midOrderly := writes.orderly orderly
      have midTree := writes.isTree isTree linkless
      have midSame := (writes.changes linkless).current_eq
      have insideWrites := inside.writes midOrderly
      have insideChanges := insideWrites.changes midOrderly.linkless
      have same := insideChanges.current_eq.trans midSame
      have noUp : ∀ name ∈ before.sortedNames address, name ≠ Path.upName :=
        fun name mem => orderly.ne_up _ name (mem_sortedNames_iff.mp mem)
      have entries := insideIh midOrderly midTree ((head.entryPairs noUp).congr midSame)
        (targetsSeparate_entryPairs (nodup_sortedNames orderly.nodup address) noUp mid source
          target)
      have first := (landed_directory orderly isTree head found ensured insideChanges.keeps
        entries).copyRights source target
      have others := restIh ((insideWrites.orderly midOrderly).copyRights source target)
        ((insideWrites.isTree midTree midOrderly.linkless).copyRights source target)
        ((into.of_subset (List.subset_cons_self _ _)).congr same)
        (TargetsSeparate.congr separate.tail same)
      exact first.cons_of_copied others (.directory readable ensured inside .done) rest orderly into
        separate

/-- A file is not copied to where it is. -/
theorem not_put_of_same (isTree : before.IsTree) (linkless : before.Linkless)
    (same : before.addressOf target = before.addressOf source)
    (found : before.find source = .ok (address, .file bytes))
    (different : before.areSame source (before.copyPlace source target) = false) :
    runOn (putCopy source (before.copyPlace source target) bytes) before ≠ (.ok (), after) := by
  intro put
  rcases runOn_putCopy_eq_ok_iff.mp put with ⟨_, written, _⟩
  have isAddress := address_eq_of_find linkless found
  have stands := isTree.get?_of_find linkless found
  rw [isAddress] at stands
  rcases copyPlace_eq_or before source target with isTarget | ⟨there, targetFound⟩
  · rw [isTarget] at written different
    rcases runOn_writeFile_eq_ok_iff.mp written with ⟨place, located, replaces, _⟩
    have placeAddress := address_eq_of_locate linkless located
    have placeEntry := get?_of_locate linkless located (Place.ne_directory replaces)
    rw [placeAddress, same, stands] at placeEntry
    cases place with
    | found placeFound entry =>
        have targetFound : before.find target = .ok (placeFound, entry) := by rw [find, located]
        have sameFile : placeFound = address := by rw [isAddress, ← same, ← placeAddress]; rfl
        simp [areSame, found, targetFound, sameFile] at different
    | vacant => simp [Place.entry?] at placeEntry
  · have targetStands := isTree.get?_of_find linkless targetFound
    rw [address_eq_of_find linkless targetFound, same, stands] at targetStands
    simp at targetStands

/-- Copying sources to where they are succeeds only if they hold nothing but directories, and then
it changes nothing. -/
theorem Copied.unchanged_of_same (copied : Copied depth items before after)
    (orderly : before.Orderly) (isTree : before.IsTree)
    (same : ∀ item ∈ items, before.addressOf item.2 = before.addressOf item.1) :
    (∀ address, after.get? address = before.get? address) ∧
      ∀ item ∈ items, ∀ rest entry,
        before.get? (before.addressOf item.1 ++ rest) = some entry → entry = .directory := by
  induction copied with
  | done => simp
  | file readable different put =>
      exact absurd put (not_put_of_same isTree orderly.linkless (same _ List.mem_cons_self)
        (find_of_findReadable readable) different)
  | @directory depth before mid inner after source target address items readable ensured inside rest
      insideIh restIh =>
      have found := find_of_findReadable readable
      have linkless := orderly.linkless
      have writes := writesOnly_ensureDirectory _ _ _ _ ensured orderly
      have midOrderly := writes.orderly orderly
      have midTree := writes.isTree isTree linkless
      have insideWrites := inside.writes midOrderly
      have made := isMade_of_runOn_ensureDirectory orderly isTree ensured
      have here := same _ List.mem_cons_self
      have stands := isTree.get?_of_find linkless found
      have isAddress := address_eq_of_find linkless found
      rw [isAddress] at stands
      have midSame : ∀ other, mid.get? other = before.get? other := by
        intro other
        by_cases isTarget : other = before.addressOf target
        · rw [isTarget, made.there, here, stands]
        · exact made.elsewhere other isTarget
      have noUp : ∀ name ∈ before.sortedNames address, name ≠ Path.upName :=
        fun name mem => orderly.ne_up _ name (mem_sortedNames_iff.mp mem)
      have insideSame : ∀ item ∈ entryPairs source target (before.sortedNames address),
          mid.addressOf item.2 = mid.addressOf item.1 := by
        intro item mem
        rcases List.mem_map.mp mem with ⟨name, nameMem, rfl⟩
        rw [addressOf_child (noUp name nameMem), addressOf_child (noUp name nameMem),
          addressOf_congr made.current_eq, addressOf_congr made.current_eq, here]
      rcases insideIh midOrderly midTree insideSame with ⟨innerSame, entries⟩
      have current := (insideWrites.changes midOrderly.linkless).current_eq.trans made.current_eq
      have restSame : ∀ item ∈ items, inner.addressOf item.2 = inner.addressOf item.1 := by
        intro item mem
        rw [addressOf_congr current, addressOf_congr current]
        exact same item (List.mem_cons_of_mem _ mem)
      rcases restIh ((insideWrites.orderly midOrderly).copyRights source target)
        ((insideWrites.isTree midTree midOrderly.linkless).copyRights source target) restSame with
        ⟨lastSame, others⟩
      refine ⟨fun other => (lastSame other).trans ((innerSame other).trans (midSame other)), ?_⟩
      intro item mem way entry there
      rcases List.mem_cons.mp mem with rfl | mem
      · cases way with
        | nil =>
            rw [List.append_nil, stands, Option.some.injEq] at there
            exact there.symm
        | cons name way =>
            have isEntry := isTree.mem_sortedNames (there ▸ Option.some_ne_none entry)
            rw [← isAddress] at isEntry
            refine entries _ (List.mem_map_of_mem isEntry) way entry ?_
            rw [made.addressOf_child_append (noUp name isEntry), midSame, there]
      · refine others item mem way entry ?_
        have same : (inner.copyRights source target).addressOf item.1 = before.addressOf item.1 :=
          addressOf_congr current item.1
        rw [same, get?_copyRights, innerSame, midSame, there]

/-- So has landed what has been copied to where it is. -/
theorem Copied.landed_of_same (copied : Copied depth items before after)
    (orderly : before.Orderly) (isTree : before.IsTree)
    (same : ∀ item ∈ items, before.addressOf item.2 = before.addressOf item.1) :
    Landed items before after := by
  rcases copied.unchanged_of_same orderly isTree same with ⟨unchanged, directories⟩
  refine ⟨?_, ?_, ?_, ?_⟩
  · intro item mem rest there
    simpa using directories item mem rest _ there
  · intro item mem rest bytes there
    simpa using directories item mem rest _ there
  · intro item mem rest there
    rw [same item mem, unchanged, there]
  · intro address bytes stood _
    rw [unchanged, stood]

end ScriptSite.Disk
