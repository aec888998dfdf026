import ScriptSite.Disk.Copy
import ScriptSite.Proofs.Disk.History

/-!
# What copying writes

Copying writes at the path of the copy and below it only, whether it succeeds or not
(`writesOnly_copyFileWith`, `writesOnly_copyDirectory`).

A copy that succeeds has copied everything that is to be copied, one after the other: `Copied` says
so for a list of sources and targets, and `runOn_copyDirectory_iff_copied` that copying a directory
is no more and no less. The bytes of a file come to its place together with its rights (`putCopy`),
and a directory gets its rights when all that is in it has been copied.
-/

namespace ScriptSite.Disk

variable {disk before mid after : Disk} {source target path place : Path} {name : Text}
  {address : Address} {bytes : Bytes}

/-- Writes bytes to a place, and gives the file there the rights of a source. -/
def putCopy (source place : Path) (bytes : Bytes) : DiskAction DiskFault Unit := do
  writeFile place bytes
  modify (·.copyRights source place)

/-- Where a file is copied to: to a path, or into the directory that the path leads to. -/
def copyPlace (disk : Disk) (source target : Path) : Path :=
  if disk.find target matches .ok (_, .directory) then target.child source.name else target

/-- Copies an entry of a directory: a file, or a directory with directories up to `depth` inside
each other. -/
def copyEntry (depth : Nat) (source target : Path) (name : Text) : DiskAction CopyError Unit := do
  match (← get).find source with
  | .ok (_, .directory) => copyDirectory depth source target
  | .ok _ | .error (.refused .noEntry) =>
    copyFileWith (shownEntry name) (fun path => Text.quoted path.toText) source target
  | .error fault => throw (CopyError.ofFault source fault)

/-- The entries of a directory with the paths that they are copied to. -/
def entryPairs (source target : Path) (names : List Text) : List (Path × Path) :=
  names.map fun name => (source.child name, target.child name)

theorem copyDirectory_succ (depth : Nat) (source target : Path) :
    copyDirectory (depth + 1) source target = (do
      let names ← atPath source (list source)
      atPath target (ensureDirectory target)
      let troubles ← copyEntries (copyEntry depth) source target names
      modify (·.copyRights source target)
      if !troubles.isEmpty then throw (.several troubles)) := by
  rw [copyDirectory]
  rfl

theorem name_child (path : Path) (name : Text) : (path.child name).name = name := by
  simp [Path.name]

theorem onlyLooks_openFile (path : Path) : OnlyLooks (openFile path) := by
  intro disk
  rw [openFile, runOn_bind, runOn_get]
  simp only
  split <;> rfl

/-- A file is read and then written to its place, unless it is in that place. -/
theorem runOn_copyFileWith (shown : Text) (showTarget : Path → Text) (source target : Path)
    (disk : Disk) :
    (disk.areSame source (disk.copyPlace source target) = true ∧
        ∃ left right, runOn (copyFileWith shown showTarget source target) disk =
          (.error (.sameFile left right), disk)) ∨
      (disk.areSame source (disk.copyPlace source target) = false ∧
        runOn (copyFileWith shown showTarget source target) disk = runOn (do
          let bytes? ← atPath source (openFile source)
          atPath (disk.copyPlace source target)
            (writeFile (disk.copyPlace source target) (bytes?.getD []))
          if bytes?.isNone then throw (.refused .inputOutput none)
          modify (·.copyRights source (disk.copyPlace source target))) disk) := by
  rw [copyFileWith, runOn_bind, runOn_get]
  cases same : disk.areSame source (disk.copyPlace source target) with
  | true => exact Or.inl ⟨rfl, _, _, congrArg (runOn · disk) (if_pos same)⟩
  | false => exact Or.inr ⟨rfl, congrArg (runOn · disk) (if_neg (Bool.not_eq_true _ ▸ same))⟩

theorem copyPlace_eq_or (disk : Disk) (source target : Path) :
    disk.copyPlace source target = target ∨
      ∃ address, disk.find target = .ok (address, .directory) := by
  rw [copyPlace]
  rcases disk.find target with _ | ⟨address, entry⟩
  · simp
  · cases entry <;> simp

theorem isWithin_copyPlace (notUp : source.name ≠ Path.upName) (disk : Disk) (target : Path) :
    (disk.copyPlace source target).IsWithin target := by
  rw [copyPlace]
  split
  · exact Path.isWithin_child notUp target
  · exact Path.isWithin_refl target

section

variable {R : Disk → Disk → Prop} [IsPreorder Disk R]

/-- Copying a file does no more than writing to its place and copying the rights there. -/
theorem respects_copyFileWith
    (writes : ∀ (disk : Disk) bytes, Respects R (writeFile (disk.copyPlace source target) bytes))
    (rights : ∀ disk : Disk, Respects R
      (modify (·.copyRights source (disk.copyPlace source target)) : DiskAction CopyError PUnit))
    (shown : Text) (showTarget : Path → Text) :
    Respects R (copyFileWith shown showTarget source target) := by
  intro before outcome after run
  rcases runOn_copyFileWith shown showTarget source target before with
    ⟨_, _, _, course⟩ | ⟨_, course⟩
  · rw [course] at run
    cases run
    exact refl_of R before
  · rw [course] at run
    refine Respects.bind (.of_onlyLooks ((onlyLooks_openFile source).adapt _)) ?_ _ _ _ run
    intro bytes?
    refine (writes before _).adapt.bind fun _ => ?_
    cases bytes? with
    | none => exact .of_onlyLooks fun _ => rfl
    | some => exact rights before

theorem respects_copyEntries {copy : Path → Path → Text → DiskAction CopyError Unit}
    {names : List Text}
    (each : ∀ name ∈ names, Respects R (copy (source.child name) (target.child name) name)) :
    Respects R (copyEntries copy source target names) := by
  induction names with
  | nil => exact .pure _ _
  | cons name names ih =>
      refine Respects.bind (Respects.tryCatch ?_ fun error => ?_) fun troubles => ?_
      · exact (each name List.mem_cons_self).bind fun _ => .pure _ _
      · split <;> exact .of_onlyLooks fun _ => rfl
      · exact (ih fun name mem => each name (List.mem_cons_of_mem _ mem)).bind fun _ => .pure _ _

theorem respects_copyEntry {depth : Nat}
    (directory : Respects R (copyDirectory depth source target))
    (file : ∀ shown showTarget, Respects R (copyFileWith shown showTarget source target))
    (name : Text) : Respects R (copyEntry depth source target name) := by
  refine Respects.bind (.of_onlyLooks fun _ => rfl) fun disk => ?_
  split
  · exact directory
  · exact file _ _
  · exact file _ _
  · exact .of_onlyLooks fun _ => rfl

end

theorem writesOnly_copyFileWith (notUp : source.name ≠ Path.upName) (shown : Text)
    (showTarget : Path → Text) (target : Path) :
    WritesOnly (fun _ => False) (·.IsWithin target)
      (copyFileWith shown showTarget source target) := by
  have place : ∀ (disk : Disk) (path : Path), path = disk.copyPlace source target →
      path.IsWithin target := by
    rintro disk _ rfl
    exact isWithin_copyPlace notUp disk target
  exact respects_copyFileWith
    (fun disk _ => WritesOnly.weaken (writesOnly_writeFile _ _) (fun _ => id) (place disk))
    (fun disk => WritesOnly.weaken (writesOnly_copyRights source _) (fun _ => id) (place disk))
    shown showTarget

/-- Copying a directory writes at the path of the copy and below it only. -/
theorem writesOnly_copyDirectory (depth : Nat) (source target : Path) :
    WritesOnly (·.IsWithin target) (·.IsWithin target) (copyDirectory depth source target) := by
  induction depth generalizing source target with
  | zero => exact .of_onlyLooks fun _ => rfl
  | succ depth ih =>
      intro before outcome after run orderly
      rw [copyDirectory_succ, runOn_bind] at run
      rcases listing : runOn (atPath source (list source)) before with ⟨error | names, mid⟩
      · rw [listing] at run
        cases run
        rw [((onlyLooks_list source).adapt _).eq_of_runOn listing]
        exact .nothing
      · rw [listing] at run
        rw [atPath, runOn_adapt_eq_ok_iff] at listing
        have same := (onlyLooks_list source).eq_of_runOn listing
        subst same
        rcases exists_of_runOn_list listing with ⟨address, _, rfl⟩
        have entries : WritesOnly (·.IsWithin target) (·.IsWithin target)
            (copyEntries (copyEntry depth) source target (mid.sortedNames address)) := by
          refine respects_copyEntries fun name mem => ?_
          have notUp := orderly.ne_up address name (mem_sortedNames_iff.mp mem)
          have sourceNotUp : (source.child name).name ≠ Path.upName := by
            rwa [name_child]
          have below : ∀ path : Path, path.IsWithin (target.child name) → path.IsWithin target :=
            fun path within => within.trans (Path.isWithin_child notUp target)
          exact respects_copyEntry (WritesOnly.weaken (ih _ _) below below)
            (fun _ _ => WritesOnly.weaken (writesOnly_copyFileWith sourceNotUp _ _ _)
              (fun _ => False.elim) below) name
        have directory : WritesOnly (·.IsWithin target) (·.IsWithin target)
            (atPath target (ensureDirectory target)) := by
          refine WritesOnly.weaken (writesOnly_ensureDirectory target).adapt ?_
            (fun _ => False.elim)
          rintro _ rfl
          exact Path.isWithin_refl _
        have rights : WritesOnly (·.IsWithin target) (·.IsWithin target)
            (modify (·.copyRights source target) : DiskAction CopyError PUnit) := by
          refine WritesOnly.weaken (writesOnly_copyRights source target) (fun _ => False.elim) ?_
          rintro _ rfl
          exact Path.isWithin_refl _
        refine directory.bind (fun _ => entries.bind fun troubles => rights.bind fun _ => ?_) _ _ _
          run orderly
        split <;> exact .of_onlyLooks fun _ => rfl

theorem runOn_copyTree (source target : Path) (disk : Disk) :
    runOn (copyTree source target) disk =
      runOn (copyDirectory (disk.reach + 1) source target) disk := rfl

theorem writesOnly_copyTree (source target : Path) :
    WritesOnly (·.IsWithin target) (·.IsWithin target) (copyTree source target) :=
  Respects.bind (.of_onlyLooks fun _ => rfl) fun disk =>
    writesOnly_copyDirectory (disk.reach + 1) source target

theorem runOn_openFile_eq_ok_iff :
    runOn (openFile path) before = (.ok (some bytes), after) ↔
      (∃ address, before.findReadable path = .ok (address, .file bytes)) ∧ after = before := by
  rw [openFile, runOn_bind, runOn_get]
  simp only
  rcases before.findReadable path with fault | ⟨address, entry⟩
  · simp
  · cases entry <;> simp [eq_comm]

theorem runOn_putCopy_eq_ok_iff :
    runOn (putCopy source place bytes) before = (.ok (), after) ↔
      ∃ written, runOn (writeFile place bytes) before = (.ok (), written) ∧
        after = written.copyRights source place := by
  rw [putCopy, runOn_bind_eq_ok_iff]
  constructor
  · rintro ⟨_, written, run, rights⟩
    cases rights
    exact ⟨written, run, rfl⟩
  · rintro ⟨written, run, rfl⟩
    exact ⟨(), written, run, rfl⟩

theorem writesOnly_putCopy (source place : Path) (bytes : Bytes) :
    WritesOnly (fun _ => False) (· = place) (putCopy source place bytes) :=
  (writesOnly_writeFile place bytes).bind fun _ => writesOnly_copyRights source place

/-- A file is copied exactly if it is a file that may be read, and not the one in its place, and its
bytes can be written there. -/
theorem runOn_copyFileWith_eq_ok_iff {shown : Text} {showTarget : Path → Text} :
    runOn (copyFileWith shown showTarget source target) before = (.ok (), after) ↔
      ∃ address bytes, before.findReadable source = .ok (address, .file bytes) ∧
        before.areSame source (before.copyPlace source target) = false ∧
        runOn (putCopy source (before.copyPlace source target) bytes) before =
          (.ok (), after) := by
  rcases runOn_copyFileWith shown showTarget source target before with
    ⟨same, _, _, course⟩ | ⟨different, course⟩
  · rw [course]
    simp [same]
  · simp only [course, different, true_and]
    constructor
    · intro run
      rw [runOn_bind_eq_ok_iff] at run
      rcases run with ⟨bytes?, mid, opened, run⟩
      rw [runOn_bind_eq_ok_iff] at run
      rcases run with ⟨_, last, written, checked⟩
      cases bytes? with
      | none => simp at checked
      | some bytes =>
          rw [atPath, runOn_adapt_eq_ok_iff, runOn_openFile_eq_ok_iff] at opened
          rcases opened with ⟨⟨address, found⟩, rfl⟩
          rw [atPath, runOn_adapt_eq_ok_iff] at written
          cases checked
          exact ⟨address, bytes, found, runOn_putCopy_eq_ok_iff.mpr ⟨last, written, rfl⟩⟩
    · rintro ⟨address, bytes, found, copied⟩
      rcases runOn_putCopy_eq_ok_iff.mp copied with ⟨last, written, rfl⟩
      rw [runOn_bind_eq_ok_iff]
      refine ⟨some bytes, before, ?_, ?_⟩
      · rw [atPath, runOn_adapt_eq_ok_iff, runOn_openFile_eq_ok_iff]
        exact ⟨⟨address, found⟩, rfl⟩
      · rw [runOn_bind_eq_ok_iff]
        exact ⟨(), last, runOn_adapt_eq_ok_iff.mpr written, rfl⟩

/-- A list of sources is copied to a list of targets, one after the other, where directories have
directories up to `depth` inside each other. -/
inductive Copied : Nat → List (Path × Path) → Disk → Disk → Prop
  | done {depth : Nat} {disk : Disk} : Copied depth [] disk disk
  | file {depth : Nat} {before mid after : Disk} {source target : Path} {address : Address}
      {bytes : Bytes} {items : List (Path × Path)}
      (found : before.findReadable source = .ok (address, .file bytes))
      (different : before.areSame source (before.copyPlace source target) = false)
      (put : runOn (putCopy source (before.copyPlace source target) bytes) before = (.ok (), mid))
      (rest : Copied depth items mid after) : Copied depth ((source, target) :: items) before after
  | directory {depth : Nat} {before mid inner after : Disk} {source target : Path}
      {address : Address} {items : List (Path × Path)}
      (found : before.findReadable source = .ok (address, .directory))
      (ensured : runOn (ensureDirectory target) before = (.ok (), mid))
      (inside : Copied depth (entryPairs source target (before.sortedNames address)) mid inner)
      (rest : Copied (depth + 1) items (inner.copyRights source target) after) :
      Copied (depth + 1) ((source, target) :: items) before after

/-- Whether an error is told at all where troubles are gathered. -/
def IsTold (error : CopyError) : Prop :=
  error ≠ .several []

theorem message_sameFile_ne_nil (shown other : Text) :
    (CopyError.sameFile shown other).message ≠ [] := by
  have words : (CopyError.sameFile shown other).message =
      shown ++ " and ".toList ++ other ++ " are the same file".toList := rfl
  rw [words]
  exact List.append_ne_nil_of_right_ne_nil _ (by decide)

theorem troublesOf_ne_nil {error : CopyError} (told : IsTold error) :
    troublesOf source target error ≠ [] := by
  cases error with
  | sameFile shown other =>
      have inWords : troublesOf source target (.sameFile shown other) =
          (CopyError.sameFile shown other).message.map .letter := rfl
      rw [inWords, ne_eq, List.map_eq_nil_iff]
      exact message_sameFile_ne_nil shown other
  | several troubles =>
      rintro rfl
      exact told rfl
  | refused => simp [troublesOf]
  | unnameable => simp [troublesOf]
  | tooDeep => simp [troublesOf]

theorem isTold_ofFault (path : Path) (fault : DiskFault) :
    IsTold (CopyError.ofFault path fault) := by
  cases fault <;> simp [CopyError.ofFault, IsTold]

section FailsOnly

variable {p : CopyError → Prop}

/-- What copying a file fails with is what opening the one or writing to the other fails with, or
one of two errors of its own. -/
theorem failsOnly_copyFileWith_of (same : ∀ shown other, p (.sameFile shown other))
    (broken : p (.refused .inputOutput none))
    (opens : FailsOnly p (atPath source (openFile source)))
    (writes : ∀ (disk : Disk) bytes, FailsOnly p (atPath (disk.copyPlace source target)
      (writeFile (disk.copyPlace source target) bytes))) (shown : Text) (showTarget : Path → Text) :
    FailsOnly p (copyFileWith shown showTarget source target) := by
  intro before after error run
  rcases runOn_copyFileWith shown showTarget source target before with
    ⟨_, _, _, course⟩ | ⟨_, course⟩
  · rw [course] at run
    cases run
    exact same _ _
  · rw [course] at run
    refine opens.bind (fun bytes? => (writes before _).bind fun _ => ?_) _ _ _ run
    cases bytes? with
    | none => exact FailsOnly.throw broken
    | some => exact fun _ _ _ run => by cases run

/-- Copying entries gathers all troubles but one. -/
theorem failsOnly_copyEntries (copy : Path → Path → Text → DiskAction CopyError Unit)
    (source target : Path) (names : List Text) :
    FailsOnly (· = .tooDeep) (copyEntries copy source target names) := by
  induction names with
  | nil => exact .pure _ _
  | cons name names ih =>
      refine FailsOnly.bind ?_ fun troubles => ih.bind fun _ => .pure _ _
      intro before after error run
      rw [runOn_tryCatch] at run
      split at run
      · cases run
      · split at run
        · rename_i tooDeep
          cases run
          exact tooDeep
        · cases run

/-- What copying a directory fails with is what listing the one or making the other fails with, or
it is the giving up or all troubles together. -/
theorem failsOnly_copyDirectory_of (tooDeep : p .tooDeep)
    (several : ∀ troubles, troubles ≠ [] → p (.several troubles))
    (lists : FailsOnly p (atPath source (list source)))
    (ensures : FailsOnly p (atPath target (ensureDirectory target))) (depth : Nat) :
    FailsOnly p (copyDirectory depth source target) := by
  cases depth with
  | zero => exact FailsOnly.throw tooDeep
  | succ depth =>
      rw [copyDirectory_succ]
      refine lists.bind fun names => ensures.bind fun _ => ?_
      have entries : FailsOnly p (copyEntries (copyEntry depth) source target names) := by
        intro before after error run
        rwa [failsOnly_copyEntries _ _ _ _ _ _ _ run]
      refine entries.bind fun troubles => ?_
      refine FailsOnly.bind (fun _ _ _ run => by cases run) fun _ => ?_
      cases troubles with
      | nil => exact FailsOnly.pure _ _
      | cons => exact FailsOnly.throw (several _ (List.cons_ne_nil _ _))

end FailsOnly

theorem failsOnly_copyFileWith (shown : Text) (showTarget : Path → Text) (source target : Path) :
    FailsOnly IsTold (copyFileWith shown showTarget source target) :=
  failsOnly_copyFileWith_of (by simp [IsTold]) (by simp [IsTold]) (.adapt (isTold_ofFault _) _)
    (fun _ _ => .adapt (isTold_ofFault _) _) shown showTarget

theorem failsOnly_copyDirectory (depth : Nat) (source target : Path) :
    FailsOnly IsTold (copyDirectory depth source target) :=
  failsOnly_copyDirectory_of (by simp [IsTold]) (by simp [IsTold]) (.adapt (isTold_ofFault _) _)
    (.adapt (isTold_ofFault _) _) depth

theorem failsOnly_copyEntry (depth : Nat) (source target : Path) (name : Text) :
    FailsOnly IsTold (copyEntry depth source target name) := by
  refine FailsOnly.bind (fun _ _ _ run => by cases run) fun disk => ?_
  split
  · exact failsOnly_copyDirectory _ _ _
  · exact failsOnly_copyFileWith _ _ _ _
  · exact failsOnly_copyFileWith _ _ _ _
  · exact .throw (isTold_ofFault _ _)

/-- Entries are copied without trouble exactly if each is copied, one after the other. -/
theorem runOn_copyEntries_cons_iff {copy : Path → Path → Text → DiskAction CopyError Unit}
    (fails : ∀ source target name, FailsOnly IsTold (copy source target name)) {names : List Text} :
    runOn (copyEntries copy source target (name :: names)) before = (.ok [], after) ↔
      ∃ mid, runOn (copy (source.child name) (target.child name) name) before = (.ok (), mid) ∧
        runOn (copyEntries copy source target names) mid = (.ok [], after) := by
  rw [copyEntries, runOn_bind, runOn_tryCatch, runOn_bind]
  rcases first : runOn (copy (source.child name) (target.child name) name) before with
    ⟨error | _, mid⟩
  · have told : troublesOf (source.child name) (target.child name) error ≠ [] :=
      troublesOf_ne_nil (fails _ _ _ _ _ _ first)
    by_cases tooDeep : error = .tooDeep
    · simp [tooDeep]
    · simp only [if_neg tooDeep, runOn_pure, runOn_bind_eq_ok_iff, Prod.mk.injEq, Except.ok.injEq,
        List.append_eq_nil_iff, told, false_and, and_false, exists_const, reduceCtorEq]
  · simp only [runOn_pure, runOn_bind_eq_ok_iff, List.nil_append, Prod.mk.injEq, Except.ok.injEq,
      true_and]
    constructor
    · rintro ⟨_, _, run, rfl, rfl⟩
      exact ⟨mid, rfl, run⟩
    · rintro ⟨_, rfl, run⟩
      exact ⟨_, _, run, rfl, rfl⟩

theorem runOn_copyDirectory_eq_ok_iff {depth : Nat} :
    runOn (copyDirectory (depth + 1) source target) before = (.ok (), after) ↔
      ∃ address mid inner, before.findReadable source = .ok (address, .directory) ∧
        runOn (ensureDirectory target) before = (.ok (), mid) ∧
        runOn (copyEntries (copyEntry depth) source target (before.sortedNames address)) mid =
          (.ok [], inner) ∧
        after = inner.copyRights source target := by
  rw [copyDirectory_succ]
  constructor
  · intro run
    rw [runOn_bind_eq_ok_iff] at run
    rcases run with ⟨names, first, listed, run⟩
    rw [atPath, runOn_adapt_eq_ok_iff] at listed
    have same := (onlyLooks_list source).eq_of_runOn listed
    subst same
    rcases exists_of_runOn_list listed with ⟨address, readable, rfl⟩
    rw [runOn_bind_eq_ok_iff] at run
    rcases run with ⟨_, mid, ensured, run⟩
    rw [atPath, runOn_adapt_eq_ok_iff] at ensured
    rw [runOn_bind_eq_ok_iff] at run
    rcases run with ⟨troubles, inner, entries, run⟩
    rw [runOn_bind_eq_ok_iff] at run
    rcases run with ⟨_, last, rights, checked⟩
    cases rights
    cases troubles with
    | nil =>
        cases checked
        exact ⟨address, mid, inner, readable, ensured, entries, rfl⟩
    | cons => simp at checked
  · rintro ⟨address, mid, inner, readable, ensured, entries, rfl⟩
    rw [runOn_bind_eq_ok_iff]
    refine ⟨_, before, runOn_adapt_eq_ok_iff.mpr (runOn_list_of_findReadable readable), ?_⟩
    rw [runOn_bind_eq_ok_iff]
    refine ⟨(), mid, runOn_adapt_eq_ok_iff.mpr ensured, ?_⟩
    rw [runOn_bind_eq_ok_iff]
    exact ⟨[], inner, entries, rfl⟩

theorem runOn_copyEntry_eq_ok_iff {depth : Nat} :
    runOn (copyEntry depth source target name) before = (.ok (), after) ↔
      (∃ address, before.find source = .ok (address, .directory) ∧
        runOn (copyDirectory depth source target) before = (.ok (), after)) ∨
      ∃ address bytes, before.findReadable source = .ok (address, .file bytes) ∧
        before.areSame source (before.copyPlace source target) = false ∧
        runOn (putCopy source (before.copyPlace source target) bytes) before =
          (.ok (), after) := by
  rw [copyEntry, runOn_bind, runOn_get]
  simp only [findReadable_eq_ok_iff]
  split
  · rename_i address found
    simp [found]
  · rename_i place notDirectory found
    have notFound : ∀ address, before.find source ≠ .ok (address, .directory) := by
      rintro address directory
      rw [directory, Except.ok.injEq] at found
      exact notDirectory address found.symm
    simp [runOn_copyFileWith_eq_ok_iff, findReadable_eq_ok_iff, notFound]
  · rename_i absent
    simp [runOn_copyFileWith_eq_ok_iff, findReadable_eq_ok_iff, absent]
  · rename_i fault _ failed
    simp [failed]

theorem copied_cons_iff {depth : Nat} {items : List (Path × Path)} :
    Copied depth ((source, target) :: items) before after ↔
      ∃ mid, Copied depth [(source, target)] before mid ∧ Copied depth items mid after := by
  constructor
  · intro copied
    cases copied with
    | file found different put rest => exact ⟨_, .file found different put .done, rest⟩
    | directory found ensured inside rest => exact ⟨_, .directory found ensured inside .done, rest⟩
  · rintro ⟨mid, first, rest⟩
    cases first with
    | file found different put last =>
        cases last
        exact .file found different put rest
    | directory found ensured inside last =>
        cases last
        exact .directory found ensured inside rest

theorem Copied.append {depth : Nat} {items more : List (Path × Path)}
    (first : Copied depth items before mid) (second : Copied depth more mid after) :
    Copied depth (items ++ more) before after := by
  induction items generalizing before with
  | nil =>
      cases first
      exact second
  | cons item items ih =>
      rcases copied_cons_iff.mp first with ⟨_, head, rest⟩
      exact copied_cons_iff.mpr ⟨_, head, ih rest⟩

/-- An entry is copied exactly if it is, given that this is so for the entries inside of it. -/
theorem runOn_copyEntry_iff_copied (name : Text) {depth : Nat}
    (inside : ∀ less, depth = less + 1 → ∀ {source target : Path} {before after : Disk} names,
      runOn (copyEntries (copyEntry less) source target names) before = (.ok [], after) ↔
        Copied less (entryPairs source target names) before after) :
    runOn (copyEntry depth source target name) before = (.ok (), after) ↔
      Copied depth [(source, target)] before after := by
  rw [runOn_copyEntry_eq_ok_iff]
  constructor
  · rintro (⟨_, found, run⟩ | ⟨_, _, found, different, put⟩)
    · cases depth with
      | zero => cases run
      | succ less =>
          rw [runOn_copyDirectory_eq_ok_iff] at run
          rcases run with ⟨_, _, _, found, ensured, entries, rfl⟩
          exact .directory found ensured ((inside less rfl _).mp entries) .done
    · exact .file found different put .done
  · intro copied
    cases copied with
    | file found different put last =>
        cases last
        exact Or.inr ⟨_, _, found, different, put⟩
    | directory found ensured entries last =>
        cases last
        refine Or.inl ⟨_, find_of_findReadable found, ?_⟩
        rw [runOn_copyDirectory_eq_ok_iff]
        exact ⟨_, _, _, found, ensured, (inside _ rfl _).mpr entries, rfl⟩

/-- Entries are copied without trouble exactly if they are copied one after the other. -/
theorem runOn_copyEntries_eq_ok_iff (depth : Nat) (names : List Text) :
    runOn (copyEntries (copyEntry depth) source target names) before = (.ok [], after) ↔
      Copied depth (entryPairs source target names) before after := by
  induction depth using Nat.strongRecOn generalizing source target before after names with
  | _ depth ih =>
      induction names generalizing before with
      | nil =>
          rw [copyEntries, runOn_pure, Prod.mk.injEq]
          constructor
          · rintro ⟨_, rfl⟩
            exact .done
          · intro copied
            cases copied
            exact ⟨rfl, rfl⟩
      | cons name names namesIh =>
          rw [runOn_copyEntries_cons_iff (failsOnly_copyEntry depth), entryPairs, List.map_cons,
            copied_cons_iff]
          have entry : ∀ mid, runOn (copyEntry depth (source.child name) (target.child name) name)
              before = (.ok (), mid) ↔
                Copied depth [(source.child name, target.child name)] before mid := by
            intro mid
            refine runOn_copyEntry_iff_copied name fun less isLess => ?_
            subst isLess
            exact ih less (Nat.lt_succ_self less)
          simp only [entry, namesIh, entryPairs]

/-- A directory is copied exactly if it is made and all that is in it is copied. -/
theorem runOn_copyDirectory_iff_copied {depth : Nat}
    (found : before.find source = .ok (address, .directory)) :
    runOn (copyDirectory depth source target) before = (.ok (), after) ↔
      Copied depth [(source, target)] before after := by
  rw [← runOn_copyEntry_iff_copied [] fun less _ => runOn_copyEntries_eq_ok_iff less,
    runOn_copyEntry_eq_ok_iff]
  simp [found, findReadable_eq_ok_iff]

/-- A file is copied exactly if its bytes are written to its place. -/
theorem runOn_copyFile_iff_copied (isFile : before.isFile source = .ok true) (depth : Nat) :
    runOn (copyFile source target) before = (.ok (), after) ↔
      Copied depth [(source, target)] before after := by
  rcases test_eq_true_iff.mp isFile with ⟨_, entry, found, holds⟩
  have notDirectory : entry ≠ .directory := by
    rintro rfl
    simp [isFileEntry] at holds
  rw [copyFile, runOn_copyFileWith_eq_ok_iff,
    ← runOn_copyEntry_iff_copied [] fun less _ => runOn_copyEntries_eq_ok_iff less,
    runOn_copyEntry_eq_ok_iff]
  simp [found, notDirectory]

/-- Copying writes at the targets and below them only. -/
theorem Copied.writes {depth : Nat} {items : List (Path × Path)}
    (copied : Copied depth items before after) (orderly : before.Orderly) :
    Writes (fun path => ∃ item ∈ items, path.IsWithin item.2)
      (fun path => ∃ item ∈ items, path.IsWithin item.2) before after := by
  have later : ∀ (item : Path × Path) (items : List (Path × Path)) (path : Path),
      (∃ other ∈ items, path.IsWithin other.2) →
        ∃ other ∈ item :: items, path.IsWithin other.2 := by
    rintro item items path ⟨other, mem, within⟩
    exact ⟨other, List.mem_cons_of_mem _ mem, within⟩
  induction copied with
  | done => exact .nothing
  | @file depth before mid after source target address bytes items found _ put _ ih =>
      have notUp := name_ne_up_of_find orderly.linkless (find_of_findReadable found) (by simp)
      have first := writesOnly_putCopy _ _ _ _ _ _ put orderly
      refine (first.weaken (fun _ => False.elim) ?_).trans
        ((ih (first.orderly orderly)).weaken (later _ items) (later _ items))
      rintro _ rfl
      exact ⟨_, List.mem_cons_self, isWithin_copyPlace notUp before target⟩
  | @directory depth before mid inner after source target address items found ensured _ _ insideIh
      restIh =>
      have first := writesOnly_ensureDirectory _ _ _ _ ensured orderly
      have midOrderly := first.orderly orderly
      have second := insideIh midOrderly
      have rights : Writes (fun _ => False) (· = target) inner (inner.copyRights source target) :=
        .rights .nothing rfl
      have third := restIh (rights.orderly (second.orderly midOrderly))
      have below : ∀ path : Path,
          (∃ item ∈ entryPairs source target (before.sortedNames address),
            path.IsWithin item.2) → ∃ item ∈ (source, target) :: items, path.IsWithin item.2 := by
        rintro path ⟨item, mem, within⟩
        rcases List.mem_map.mp mem with ⟨name, nameMem, rfl⟩
        have notUp := orderly.ne_up address name (mem_sortedNames_iff.mp nameMem)
        exact ⟨_, List.mem_cons_self, within.trans (Path.isWithin_child notUp target)⟩
      have here : ∀ path : Path, path = target →
          ∃ item ∈ (source, target) :: items, path.IsWithin item.2 := by
        rintro _ rfl
        exact ⟨_, List.mem_cons_self, Path.isWithin_refl _⟩
      exact (first.weaken here (fun _ => False.elim)).trans ((second.weaken below below).trans
        ((rights.weaken (fun _ => False.elim) here).trans
          (third.weaken (later _ items) (later _ items))))

/-- What has been copied is found where it has been copied to. -/
theorem Copied.exists_find {depth : Nat} {items : List (Path × Path)}
    (copied : Copied depth items before after) (orderly : before.Orderly) :
    ∀ item ∈ items, ∃ address entry, after.find item.2 = .ok (address, entry) := by
  induction copied with
  | done => simp
  | @file depth before mid after source target address bytes items _ _ put rest ih =>
      have writes := writesOnly_putCopy _ _ _ _ _ _ put orderly
      have midOrderly := writes.orderly orderly
      have restChanges := (rest.writes midOrderly).changes midOrderly.linkless
      have here : ∃ address entry, mid.find target = .ok (address, entry) := by
        rcases copyPlace_eq_or before source target with same | ⟨there, found⟩
        · rw [same] at put
          rcases runOn_putCopy_eq_ok_iff.mp put with ⟨written, run, rfl⟩
          rcases (ensures_writeFile orderly.linkless run).found rfl with ⟨there, found⟩
          exact ⟨there, _, (find_copyRights _ _ _ _).trans found⟩
        · exact ⟨there, _, find_mono orderly.linkless midOrderly.linkless
            (writes.changes orderly.linkless).keeps found⟩
      rcases here with ⟨there, entry, found⟩
      rcases restChanges.exists_find midOrderly.linkless found with ⟨now, last⟩
      exact List.forall_mem_cons.mpr ⟨⟨there, now, last⟩, ih midOrderly⟩
  | @directory depth before mid inner after source target address items _ ensured inside rest _
      restIh =>
      have midOrderly := (writesOnly_ensureDirectory _ _ _ _ ensured orderly).orderly orderly
      have insideWrites := inside.writes midOrderly
      have innerOrderly := (insideWrites.orderly midOrderly).copyRights source target
      have laterChanges := (insideWrites.changes midOrderly.linkless).keeps.trans
        ((changes_copyRights inner source target).keeps.trans
          ((rest.writes innerOrderly).changes innerOrderly.linkless).keeps)
      have lastLinkless := ((rest.writes innerOrderly).orderly innerOrderly).linkless
      rcases (ensures_ensureDirectory orderly.linkless ensured).found rfl with ⟨there, found⟩
      exact List.forall_mem_cons.mpr ⟨⟨there, _, find_mono midOrderly.linkless lastLinkless
        laterChanges found⟩, restIh innerOrderly⟩

end ScriptSite.Disk
