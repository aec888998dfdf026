import ScriptSite.Proofs.Disk.Copy

/-!
# What a copy holds

Copying a source to a target brings what is at the source to the target (`Brings`). When sources
outside of a directory are copied to targets inside of it, one after the other, the disk has in the
end what was brought last, and where nothing was brought it has what it had before (`Overlaid`).
What was at the targets and is not at the sources stays.

This holds if no directory stands where a file is copied to (`Unblocked`): a file goes into such a
directory under its own name.
-/

namespace ScriptSite.Disk

variable {disk before mid inner after : Disk} {source target : Path} {item : Path × Path}
  {items : List (Path × Path)} {top address : Address} {depth : Nat} {bytes : Bytes}
  {name : Text} {entry : Entry}

/-- Whether copying the source of an item to its target brings an entry to an address. -/
def Brings (disk : Disk) (item : Path × Path) (address : Address) (entry : Entry) : Prop :=
  ∃ rest, address = disk.addressOf item.2 ++ rest ∧
    disk.get? (disk.addressOf item.1 ++ rest) = some entry

/-- Whether what has been brought last is there, all of it could be read, and nothing else has
changed. -/
structure Overlaid (items : List (Path × Path)) (before after : Disk) : Prop where
  readable : ∀ item ∈ items, ∀ address, ¬before.Brings item address .unreadable
  last : ∀ earlier item later, items = earlier ++ item :: later → ∀ address entry,
    before.Brings item address entry → after.get? address = some entry ∨
      ∃ other ∈ later, ∃ entry, before.Brings other address entry ∧
        after.get? address = some entry
  origin : ∀ address, after.get? address = before.get? address ∨
    ∃ item ∈ items, ∃ entry, before.Brings item address entry ∧ after.get? address = some entry

/-- Whether an entry is at an address, or a file that one of the items brings there. -/
def HoldsUnder (items : List (Path × Path)) (before after : Disk) (address : Address)
    (entry : Entry) : Prop :=
  after.get? address = some entry ∨
    ∃ item ∈ items, ∃ bytes, before.Brings item address (.file bytes) ∧
      after.get? address = some (.file bytes)

/-- Whether sources outside of a directory are to be copied to targets inside of it. -/
structure CopiesInto (top : Address) (disk : Disk) (items : List (Path × Path)) : Prop where
  outside : ∀ item ∈ items, Separate top (disk.addressOf item.1)
  inside : ∀ item ∈ items, top <+: disk.addressOf item.2

/-- Whether no directory stands where a file is brought to. -/
def Unblocked (before after : Disk) (items : List (Path × Path)) : Prop :=
  ∀ item ∈ items, ∀ address bytes, before.Brings item address (.file bytes) →
    after.get? address ≠ some .directory

theorem CopiesInto.of_subset {fewer : List (Path × Path)} (into : CopiesInto top disk items)
    (within : fewer ⊆ items) : CopiesInto top disk fewer :=
  ⟨fun item mem => into.outside item (within mem), fun item mem => into.inside item (within mem)⟩

theorem CopiesInto.congr (into : CopiesInto top before items)
    (same : after.current = before.current) : CopiesInto top after items where
  outside := fun item mem => addressOf_congr same item.1 ▸ into.outside item mem
  inside := fun item mem => addressOf_congr same item.2 ▸ into.inside item mem

theorem CopiesInto.notMem_top (into : CopiesInto top disk items) (mem : item ∈ items)
    (rest : Address) : ¬top <+: disk.addressOf item.1 ++ rest :=
  ((into.outside item mem).below (List.prefix_refl top) (List.prefix_append _ rest)).1

theorem CopiesInto.prefix_of_brings (into : CopiesInto top disk items) (mem : item ∈ items)
    (brings : disk.Brings item address entry) : top <+: address := by
  rcases brings with ⟨rest, rfl, _⟩
  exact (into.inside item mem).trans (List.prefix_append _ rest)

/-- The entries of a directory are copied into the directory in its place. -/
theorem CopiesInto.entryPairs (into : CopiesInto top disk [(source, target)]) {names : List Text}
    (noUp : ∀ name ∈ names, name ≠ Path.upName) :
    CopiesInto top disk (entryPairs source target names) where
  outside := by
    intro item mem
    rcases List.mem_map.mp mem with ⟨name, nameMem, rfl⟩
    rw [addressOf_child (noUp name nameMem)]
    exact (into.outside _ (List.mem_singleton_self _)).below (List.prefix_refl _)
      (List.prefix_append _ _)
  inside := by
    intro item mem
    rcases List.mem_map.mp mem with ⟨name, nameMem, rfl⟩
    rw [addressOf_child (noUp name nameMem)]
    exact (into.inside _ (List.mem_singleton_self _)).trans (List.prefix_append _ _)

theorem Overlaid.get?_outside (overlaid : Overlaid items before after)
    (into : CopiesInto top before items) (outside : ¬top <+: address) :
    after.get? address = before.get? address := by
  rcases overlaid.origin address with same | ⟨item, mem, _, brings, _⟩
  · exact same
  · exact absurd (into.prefix_of_brings mem brings) outside

theorem Overlaid.copyRights (overlaid : Overlaid items before after) (source target : Path) :
    Overlaid items before (after.copyRights source target) :=
  ⟨overlaid.readable, overlaid.last, overlaid.origin⟩

/-- What is brought depends on what is at the source only, which stays as it is. -/
theorem brings_congr (same : after.current = before.current)
    (unchanged : ∀ rest, after.get? (before.addressOf item.1 ++ rest) =
      before.get? (before.addressOf item.1 ++ rest)) :
    after.Brings item address entry ↔ before.Brings item address entry := by
  simp only [Brings, addressOf_congr same, unchanged]

theorem Overlaid.brings_iff (first : Overlaid [item] before mid)
    (same : mid.current = before.current) (into : CopiesInto top before (item :: items))
    {other : Path × Path} (mem : other ∈ items) :
    mid.Brings other address entry ↔ before.Brings other address entry := by
  refine brings_congr same fun rest => first.get?_outside (into.of_subset (by simp)) ?_
  exact into.notMem_top (List.mem_cons_of_mem _ mem) rest

/-- Items are copied one after the other. -/
theorem Overlaid.cons (first : Overlaid [item] before mid) (rest : Overlaid items mid after)
    (same : mid.current = before.current) (into : CopiesInto top before (item :: items)) :
    Overlaid (item :: items) before after := by
  have bringsIff : ∀ {address entry} {other : Path × Path}, other ∈ items →
      (mid.Brings other address entry ↔ before.Brings other address entry) :=
    fun mem => first.brings_iff same into mem
  refine ⟨?_, ?_, ?_⟩
  · intro other mem address brings
    rcases List.mem_cons.mp mem with rfl | mem
    · exact first.readable _ (List.mem_singleton_self _) address brings
    · exact rest.readable other mem address ((bringsIff mem).mpr brings)
  · intro earlier this later order address entry brings
    rcases List.cons_eq_append_iff.mp order with ⟨rfl, parts⟩ | ⟨earlier, rfl, parts⟩
    · rw [List.cons.injEq] at parts
      rcases parts with ⟨rfl, rfl⟩
      have brought : mid.get? address = some entry := by
        simpa using first.last [] this [] rfl address entry brings
      rcases rest.origin address with kept | ⟨other, mem, entry, brings, taken⟩
      · exact Or.inl (kept.trans brought)
      · exact Or.inr ⟨other, mem, entry, (bringsIff mem).mp brings, taken⟩
    · have within : later ⊆ items := by simp [parts]
      have mem : this ∈ items := by simp [parts]
      rcases rest.last earlier this later parts address entry ((bringsIff mem).mpr brings) with
        there | ⟨other, mem, entry, brings, taken⟩
      · exact Or.inl there
      · exact Or.inr ⟨other, mem, entry, (bringsIff (within mem)).mp brings, taken⟩
  · intro address
    rcases rest.origin address with kept | ⟨other, mem, entry, brings, taken⟩
    · rcases first.origin address with same | ⟨other, mem, entry, brings, taken⟩
      · exact Or.inl (kept.trans same)
      · rw [List.mem_singleton] at mem
        exact Or.inr ⟨other, by simp [mem], entry, brings, kept.trans taken⟩
    · exact Or.inr ⟨other, List.mem_cons_of_mem _ mem, entry, (bringsIff mem).mp brings, taken⟩

theorem Unblocked.tail (unblocked : Unblocked before after (item :: items))
    (first : Overlaid [item] before mid) (same : mid.current = before.current)
    (into : CopiesInto top before (item :: items)) : Unblocked mid after items := by
  intro other mem address bytes brings
  exact unblocked other (List.mem_cons_of_mem _ mem) address bytes
    ((first.brings_iff same into mem).mp brings)

theorem overlaid_singleton_iff :
    Overlaid [item] before after ↔
      (∀ address, ¬before.Brings item address .unreadable) ∧
        (∀ address entry, before.Brings item address entry → after.get? address = some entry) ∧
          ∀ address, after.get? address = before.get? address ∨
            ∃ entry, before.Brings item address entry ∧ after.get? address = some entry := by
  constructor
  · intro overlaid
    exact ⟨by simpa using overlaid.readable, by simpa using overlaid.last [] item [] rfl,
      by simpa using overlaid.origin⟩
  · rintro ⟨readable, last, origin⟩
    refine ⟨by simpa using readable, ?_, by simpa using origin⟩
    intro earlier this later order address entry brings
    rcases List.cons_eq_append_iff.mp order with ⟨rfl, parts⟩ | ⟨_, rfl, parts⟩
    · rw [List.cons.injEq] at parts
      rw [parts.1] at brings
      exact Or.inl (last address entry brings)
    · simp at parts

/-- A file that is written stands at the address of its path. -/
theorem eq_set_of_runOn_writeFile (linkless : before.Linkless)
    (written : runOn (writeFile target bytes) before = (.ok (), after)) :
    after = before.set (before.addressOf target) (.file bytes) ∧
      after.get? (before.addressOf target) = some (.file bytes) := by
  rcases runOn_writeFile_eq_ok_iff.mp written with ⟨place, located, replaces, _, rfl⟩
  have notDirectory := Place.ne_directory replaces
  have self := (find_set linkless (.file bytes) located notDirectory (by simp)).2.1
  rw [address_eq_of_locate linkless located] at self ⊢
  exact ⟨rfl, self⟩

/-- A file that is copied to a place stands there, and nothing else is changed. -/
theorem get?_of_runOn_putCopy {place : Path} (linkless : before.Linkless)
    (put : runOn (putCopy source place bytes) before = (.ok (), after)) :
    after.get? (before.addressOf place) = some (.file bytes) ∧
      ∀ address, address ≠ before.addressOf place → after.get? address = before.get? address := by
  rcases runOn_putCopy_eq_ok_iff.mp put with ⟨written, run, rfl⟩
  rcases eq_set_of_runOn_writeFile linkless run with ⟨rfl, self⟩
  exact ⟨self, fun address different => get?_set_of_ne different before _⟩

/-- A file is copied to a place where no directory is. -/
theorem overlaid_file (isTree : before.IsTree) (linkless : before.Linkless)
    (found : before.find source = .ok (address, .file bytes))
    (put : runOn (putCopy source target bytes) before = (.ok (), after)) :
    Overlaid [(source, target)] before after := by
  have stands := isTree.get?_of_find linkless found
  rw [address_eq_of_find linkless found] at stands
  rcases get?_of_runOn_putCopy linkless put with ⟨self, elsewhere⟩
  rw [overlaid_singleton_iff]
  refine ⟨?_, ?_, ?_⟩
  · rintro _ ⟨rest, rfl, there⟩
    have isFile := (isTree.eq_of_append_of_file stands there).2
    simp at isFile
  · rintro _ entry ⟨rest, rfl, there⟩
    rcases isTree.eq_of_append_of_file stands there with ⟨rfl, rfl⟩
    rw [List.append_nil, self]
  · intro other
    by_cases same : other = before.addressOf target
    · exact Or.inr ⟨_, ⟨[], by simp [same], by simpa using stands⟩, by rw [same, self]⟩
    · exact Or.inl (elsewhere other same)

/-- Whether a directory is there that a path leads to, and nothing else has changed. -/
structure IsMade (path : Path) (before after : Disk) : Prop where
  current_eq : after.current = before.current
  there : after.get? (before.addressOf path) = some .directory
  elsewhere : ∀ address, address ≠ before.addressOf path →
    after.get? address = before.get? address

/-- Making a directory changes nothing about a source that is elsewhere. -/
theorem IsMade.get?_source (made : IsMade target before mid)
    (into : CopiesInto top before [(source, target)]) (rest : Address) :
    mid.get? (before.addressOf source ++ rest) = before.get? (before.addressOf source ++ rest) := by
  refine made.elsewhere _ ?_
  exact ((into.outside _ (List.mem_singleton_self _)).below
    (into.inside _ (List.mem_singleton_self _)) (List.prefix_append _ rest)).symm.ne

/-- The address of what is in an entry of a directory, also when another directory has been made. -/
theorem IsMade.addressOf_child_append (made : IsMade target before mid)
    (notUp : name ≠ Path.upName) (path : Path) (rest : Address) :
    mid.addressOf (path.child name) ++ rest = before.addressOf path ++ name :: rest := by
  rw [addressOf_congr made.current_eq, addressOf_child notUp, List.append_assoc,
    List.singleton_append]

theorem isMade_of_runOn_ensureDirectory (orderly : before.Orderly) (isTree : before.IsTree)
    (ensured : runOn (ensureDirectory target) before = (.ok (), after)) :
    IsMade target before after := by
  have writes := writesOnly_ensureDirectory target _ _ _ ensured orderly
  have changes := writes.changes orderly.linkless
  have afterLinkless := changes.linkless orderly.linkless
  rcases (ensures_ensureDirectory orderly.linkless ensured).found rfl with ⟨address, found⟩
  refine ⟨changes.current_eq, ?_, ?_⟩
  · have stands := (writes.isTree isTree orderly.linkless).get?_of_find afterLinkless found
    rwa [address_eq_of_find afterLinkless found, addressOf_congr changes.current_eq] at stands
  · intro other different
    refine writes.get?_eq orderly.linkless ?_
    rintro path (rfl | none)
    · exact different.symm
    · exact none.elim

/-- What an entry of a directory brings, the directory brings. -/
theorem IsMade.brings_child_iff (made : IsMade target before mid)
    (into : CopiesInto top before [(source, target)]) (notUp : name ≠ Path.upName) :
    mid.Brings (source.child name, target.child name) address entry ↔
      ∃ rest, address = before.addressOf target ++ name :: rest ∧
        before.get? (before.addressOf source ++ name :: rest) = some entry := by
  simp only [Brings, made.addressOf_child_append notUp, made.get?_source into]

theorem Unblocked.entryPairs (unblocked : Unblocked before after ((source, target) :: items))
    (made : IsMade target before mid) (into : CopiesInto top before [(source, target)])
    (keeps : KeepsDirectories inner after) {names : List Text}
    (noUp : ∀ name ∈ names, name ≠ Path.upName) :
    Unblocked mid inner (entryPairs source target names) := by
  intro item mem address bytes brings isDirectory
  rcases List.mem_map.mp mem with ⟨name, nameMem, rfl⟩
  rcases (made.brings_child_iff into (noUp name nameMem)).mp brings with ⟨rest, isTarget, there⟩
  exact unblocked _ List.mem_cons_self address bytes ⟨name :: rest, isTarget, there⟩
    (keeps.directory _ isDirectory)

/-- A directory is copied by being made, and by copying what is in it. -/
theorem overlaid_directory (orderly : before.Orderly) (isTree : before.IsTree)
    (into : CopiesInto top before [(source, target)])
    (found : before.find source = .ok (address, .directory))
    (made : IsMade target before mid)
    (inside : Overlaid (entryPairs source target (before.sortedNames address)) mid after) :
    Overlaid [(source, target)] before after := by
  have stands := isTree.get?_of_find orderly.linkless found
  have nodup := nodup_sortedNames orderly.nodup (before.addressOf source)
  rw [address_eq_of_find orderly.linkless found] at stands inside
  have noUp : ∀ name ∈ before.sortedNames (before.addressOf source), name ≠ Path.upName :=
    fun name mem => orderly.ne_up _ name (mem_sortedNames_iff.mp mem)
  have brought : ∀ name rest entry,
      before.get? (before.addressOf source ++ name :: rest) = some entry →
        name ∈ before.sortedNames (before.addressOf source) ∧
          mid.Brings (source.child name, target.child name)
            (before.addressOf target ++ name :: rest) entry := by
    intro name rest entry there
    have isEntry := isTree.mem_sortedNames (there ▸ Option.some_ne_none entry)
    exact ⟨isEntry, (made.brings_child_iff into (noUp name isEntry)).mpr ⟨rest, rfl, there⟩⟩
  rw [overlaid_singleton_iff]
  refine ⟨?_, ?_, ?_⟩
  · rintro _ ⟨rest, rfl, there⟩
    cases rest with
    | nil => simp [stands] at there
    | cons name rest =>
        rcases brought name rest _ there with ⟨isEntry, brings⟩
        exact inside.readable _ (List.mem_map_of_mem isEntry) _ brings
  · rintro _ entry ⟨rest, rfl, there⟩
    cases rest with
    | nil =>
        rw [List.append_nil] at there ⊢
        rcases inside.origin (before.addressOf target) with kept | ⟨item, mem, _, brings, _⟩
        · rw [kept, made.there, ← there, stands]
        · rcases List.mem_map.mp mem with ⟨name, nameMem, rfl⟩
          rcases (made.brings_child_iff into (noUp name nameMem)).mp brings with ⟨way, isTarget, _⟩
          simp at isTarget
    | cons name rest =>
        rcases brought name rest entry there with ⟨isEntry, brings⟩
        rcases List.append_of_mem isEntry with ⟨earlier, later, order⟩
        have pairs : entryPairs source target (before.sortedNames (before.addressOf source)) =
            entryPairs source target earlier ++
              (source.child name, target.child name) :: entryPairs source target later := by
          simp [entryPairs, order]
        rcases inside.last _ _ _ pairs _ entry brings with kept | ⟨other, mem, _, brings, _⟩
        · exact kept
        -- Entries with other names are brought elsewhere.
        · rcases List.mem_map.mp mem with ⟨otherName, otherMem, rfl⟩
          rw [order] at nodup
          have different : name ≠ otherName := by
            rintro rfl
            exact (List.nodup_cons.mp nodup.of_append_right).1 otherMem
          have isOther : otherName ∈ before.sortedNames (before.addressOf source) := by
            simp [order, otherMem]
          rcases (made.brings_child_iff into (noUp _ isOther)).mp brings with ⟨way, isTarget, _⟩
          simp [different] at isTarget
  · intro other
    rcases inside.origin other with kept | ⟨item, mem, entry, brings, taken⟩
    · by_cases isTarget : other = before.addressOf target
      · refine Or.inr ⟨_, ⟨[], by simp [isTarget], by simpa using stands⟩, ?_⟩
        rw [kept, isTarget, made.there]
      · exact Or.inl (kept.trans (made.elsewhere _ isTarget))
    · rcases List.mem_map.mp mem with ⟨name, nameMem, rfl⟩
      rcases (made.brings_child_iff into (noUp name nameMem)).mp brings with ⟨rest, isTarget, there⟩
      exact Or.inr ⟨entry, ⟨name :: rest, isTarget, there⟩, taken⟩

/-- A file goes to its own place if no directory is there in the end. -/
theorem Unblocked.copyPlace_eq (unblocked : Unblocked before after ((source, target) :: items))
    (isTree : before.IsTree) (linkless : before.Linkless) (keeps : KeepsDirectories before after)
    (found : before.find source = .ok (address, .file bytes)) :
    before.copyPlace source target = target := by
  rcases copyPlace_eq_or before source target with same | ⟨there, targetFound⟩
  · exact same
  · have stands := isTree.get?_of_find linkless found
    have targetStands := isTree.get?_of_find linkless targetFound
    rw [address_eq_of_find linkless found] at stands
    rw [address_eq_of_find linkless targetFound] at targetStands
    exact absurd (keeps.directory _ targetStands) (unblocked (source, target) List.mem_cons_self _
      bytes ⟨[], by simp, by simpa using stands⟩)

/-- When sources have been copied, what has been brought last is there. -/
theorem Copied.overlaid (copied : Copied depth items before after) (orderly : before.Orderly)
    (isTree : before.IsTree) (into : CopiesInto top before items)
    (unblocked : Unblocked before after items) : Overlaid items before after := by
  have linkless := orderly.linkless
  have keeps := ((copied.writes orderly).changes linkless).keeps
  induction copied with
  | done => exact ⟨by simp, by simp, fun _ => Or.inl rfl⟩
  | @file depth before mid after source target address bytes items readable different put rest ih =>
      have found := find_of_findReadable readable
      rw [unblocked.copyPlace_eq isTree linkless keeps found] at put
      have first := overlaid_file isTree linkless found put
      have writes := writesOnly_putCopy _ _ _ _ _ _ put orderly
      have same := (writes.changes linkless).current_eq
      have midOrderly := writes.orderly orderly
      have restKeeps := ((rest.writes midOrderly).changes midOrderly.linkless).keeps
      refine first.cons (ih midOrderly (writes.isTree isTree linkless)
        ((into.of_subset (List.subset_cons_self _ _)).congr same) ?_ midOrderly.linkless restKeeps)
        same into
      exact unblocked.tail first same into
  | @directory depth before mid inner after source target address items readable ensured inside rest
      insideIh restIh =>
      have found := find_of_findReadable readable
      have head := into.of_subset (List.cons_subset_cons _ (List.nil_subset _))
      have made := isMade_of_runOn_ensureDirectory orderly isTree ensured
      have writes := writesOnly_ensureDirectory _ _ _ _ ensured orderly
      have midOrderly := writes.orderly orderly
      have midTree := writes.isTree isTree linkless
      have insideWrites := inside.writes midOrderly
      have insideChanges := insideWrites.changes midOrderly.linkless
      have innerOrderly := (insideWrites.orderly midOrderly).copyRights source target
      have innerTree := (insideWrites.isTree midTree midOrderly.linkless).copyRights source target
      have innerKeeps := ((rest.writes innerOrderly).changes innerOrderly.linkless).keeps
      have noUp : ∀ name ∈ before.sortedNames address, name ≠ Path.upName :=
        fun name mem => orderly.ne_up _ name (mem_sortedNames_iff.mp mem)
      have entries := insideIh midOrderly midTree ((head.entryPairs noUp).congr made.current_eq)
        (unblocked.entryPairs made head innerKeeps noUp) midOrderly.linkless insideChanges.keeps
      have first := (overlaid_directory orderly isTree head found made entries).copyRights
        source target
      have same : (inner.copyRights source target).current = before.current :=
        insideChanges.current_eq.trans made.current_eq
      have restInto := (into.of_subset (List.subset_cons_self _ _)).congr same
      refine first.cons (restIh innerOrderly innerTree restInto ?_
        innerOrderly.linkless innerKeeps) same into
      exact unblocked.tail first same into

/-- Files that have been brought are there, unless a later item has brought a file there. -/
theorem Overlaid.holdsUnder (overlaid : Overlaid items before after)
    (unblocked : Unblocked before after items) (linkless : before.Linkless)
    {earlier later : List (Path × Path)} (order : items = earlier ++ item :: later)
    (brings : before.Brings item address entry) : HoldsUnder later before after address entry := by
  have isItem : item ∈ items := by simp [order]
  rcases overlaid.last _ _ _ order _ _ brings with there | ⟨other, mem, taken, otherBrings, there⟩
  · exact Or.inl there
  · have isOther : other ∈ items := by simp [order, mem]
    cases taken with
    | file bytes => exact Or.inr ⟨other, mem, bytes, otherBrings, there⟩
    | directory =>
        cases entry with
        | file bytes => exact absurd there (unblocked item isItem _ _ brings)
        | directory => exact Or.inl there
        | link target =>
            rcases brings with ⟨_, _, stands⟩
            exact absurd stands (linkless _ target)
        | unreadable => exact absurd brings (overlaid.readable item isItem _)
    | link target =>
        rcases otherBrings with ⟨_, _, stands⟩
        exact absurd stands (linkless _ target)
    | unreadable => exact absurd otherBrings (overlaid.readable other isOther _)

/-- A file that was there before is there, unless an item has brought a file there. -/
theorem Overlaid.holdsUnder_of_file (overlaid : Overlaid items before after)
    {made written : Path → Prop} (changes : Changes made written before after)
    (stood : before.get? address = some (.file bytes)) :
    HoldsUnder items before after address (.file bytes) := by
  rcases overlaid.origin address with same | ⟨item, mem, taken, brings, there⟩
  · exact Or.inl (same.trans stood)
  · cases changes.change address with
    | nothing same => exact Or.inl (same.trans stood)
    | directory absent => simp [stood] at absent
    | file _ new =>
        rw [new, Option.some.injEq] at there
        exact Or.inr ⟨item, mem, _, there ▸ brings, new⟩

theorem HoldsUnder.congr (holds : HoldsUnder items mid after address entry)
    (brings : ∀ item ∈ items, ∀ bytes, mid.Brings item address (.file bytes) →
      before.Brings item address (.file bytes)) : HoldsUnder items before after address entry := by
  rcases holds with there | ⟨item, mem, bytes, itemBrings, there⟩
  · exact Or.inl there
  · exact Or.inr ⟨item, mem, bytes, brings item mem bytes itemBrings, there⟩

/-- What is written in a directory changes nothing about the files that are brought from elsewhere.
-/
theorem Changes.brings_file_iff {made written : Path → Prop}
    (changes : Changes made written before after) (linkless : before.Linkless)
    (into : CopiesInto top before items) (mem : item ∈ items)
    (inside : ∀ path, written path → top <+: before.addressOf path) :
    after.Brings item address (.file bytes) ↔ before.Brings item address (.file bytes) := by
  simp only [Brings, addressOf_congr changes.current_eq]
  have iff : ∀ rest, after.get? (before.addressOf item.1 ++ rest) = some (.file bytes) ↔
      before.get? (before.addressOf item.1 ++ rest) = some (.file bytes) := by
    intro rest
    have elsewhere : ∀ path, written path →
        before.addressOf path ≠ before.addressOf item.1 ++ rest := by
      intro path isWritten same
      exact into.notMem_top mem rest (same ▸ inside path isWritten)
    rcases changes.get?_eq_or_made linkless elsewhere with same | ⟨absent, new⟩
    · rw [same]
    · simp [absent, new]
  simp only [iff]

end ScriptSite.Disk
