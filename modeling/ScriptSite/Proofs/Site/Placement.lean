import ScriptSite.Proofs.Disk.Landing
import ScriptSite.Proofs.Disk.Rights
import ScriptSite.Proofs.Site.Copies

/-!
# Whether a copy is in its place

A copy that succeeds has brought every file of its source somewhere below the target, every
directory of its source to its place, and has left all other files alone (`Arrives`). A file is in
its place unless a directory stands there: then the file goes into that directory under its own
name, over a file that has this name there. A directory is in the place of a file if it was there
before, or if it had to be made on the way to the target (`IsOccupied`). So everything is in its
place exactly if no directory is in the place of a file (`inPlace_iff_of_copy`).
-/

namespace ScriptSite

open Disk

variable {before mid after : Disk} {source target : Path} {rest address : Address} {bytes : Bytes}

/-- Whether a directory stands at an address once the directories above a target have been made. -/
def Disk.IsOccupied (disk : Disk) (target : Path) (address : Address) : Prop :=
  disk.get? address = some .directory ∨
    ∃ above, target.parent.LeadsThrough above ∧ address = disk.addressOf above

/-- Where a file goes that is `rest` below a source: to its place below the target, or into the
directory that stands there. -/
inductive Lands (disk : Disk) (source target : Path) (rest : Address) : Address → Prop
  | place (free : ¬disk.IsOccupied target (disk.addressOf target ++ rest)) :
      Lands disk source target rest (disk.addressOf target ++ rest)
  | inside {name : Text} (occupied : disk.IsOccupied target (disk.addressOf target ++ rest))
      (last : (disk.addressOf source ++ rest).getLast? = some name) :
      Lands disk source target rest (disk.addressOf target ++ rest ++ [name])

/-- Whether everything of a source has arrived below a target. -/
structure Arrives (source target : Path) (before after : Disk) : Prop where
  found : ∃ entry, after.find target = .ok (before.addressOf target, entry)
  occupied : ∀ address, before.IsOccupied target address → after.get? address = some .directory
  readable : ∀ rest, before.get? (before.addressOf source ++ rest) ≠ some .unreadable
  file : ∀ rest bytes, before.get? (before.addressOf source ++ rest) = some (.file bytes) →
    ∃ address, Lands before source target rest address ∧ after.get? address = some (.file bytes)
  directory : ∀ rest, before.get? (before.addressOf source ++ rest) = some .directory →
    after.get? (before.addressOf target ++ rest) = some .directory
  kept : ∀ address bytes, before.get? address = some (.file bytes) →
    (∀ rest other, before.get? (before.addressOf source ++ rest) = some (.file other) →
      ¬Lands before source target rest address) →
      after.get? address = some (.file bytes)

/-- Whether everything of a source is at its own place below a target, and every file elsewhere is
what it was. -/
structure InPlace (source target : Path) (before after : Disk) : Prop where
  found : ∃ entry, after.find target = .ok (before.addressOf target, entry)
  file : ∀ rest bytes, before.get? (before.addressOf source ++ rest) = some (.file bytes) →
    after.get? (before.addressOf target ++ rest) = some (.file bytes)
  directory : ∀ rest, before.get? (before.addressOf source ++ rest) = some .directory →
    after.get? (before.addressOf target ++ rest) = some .directory
  kept : ∀ address bytes, before.get? address = some (.file bytes) →
    (∀ rest other, before.get? (before.addressOf source ++ rest) = some (.file other) →
      address ≠ before.addressOf target ++ rest) →
      after.get? address = some (.file bytes)

/-- Whether no directory is in the place of a file of a source. -/
def Unobstructed (source target : Path) (disk : Disk) : Prop :=
  ∀ rest bytes, disk.get? (disk.addressOf source ++ rest) = some (.file bytes) →
    ¬disk.IsOccupied target (disk.addressOf target ++ rest)

/-- What has arrived is in its place exactly if no directory was there for a file. -/
theorem Arrives.inPlace_iff (arrives : Arrives source target before after) :
    InPlace source target before after ↔ Unobstructed source target before := by
  constructor
  · intro inPlace rest bytes there occupied
    have isFile := inPlace.file rest bytes there
    rw [arrives.occupied _ occupied] at isFile
    simp at isFile
  · intro free
    refine ⟨arrives.found, ?_, arrives.directory, ?_⟩
    · intro rest bytes there
      rcases arrives.file rest bytes there with ⟨address, lands, arrived⟩
      cases lands with
      | place => exact arrived
      | inside occupied => exact absurd occupied (free rest bytes there)
    · intro address bytes stood apart
      refine arrives.kept address bytes stood fun rest other there lands => ?_
      cases lands with
      | place => exact apart rest other there rfl
      | inside occupied => exact free rest other there occupied

/-- No directory is in the place of a file if nothing is at the target. -/
theorem unobstructed_of_absent (isTree : before.IsTree)
    (absent : before.get? (before.addressOf target) = none) (noUp : Path.upName ∉ target.names)
    (source : Path) : Unobstructed source target before := by
  rintro rest bytes _ (there | ⟨above, ⟨slashes, names⟩, isAbove⟩)
  · by_cases last : rest = []
    · simp [last, absent] at there
    · have directory := isTree.directory_of_append last (there ▸ Option.some_ne_none _)
      simp [absent] at directory
  · have aboveNoUp : Path.upName ∉ above.names := fun mem =>
      noUp ((names.trans (List.dropLast_prefix _)).subset mem)
    have sameStart : before.start above = before.start target := by
      rw [Disk.start, Disk.start, Path.isAbsolute, Path.isAbsolute, slashes]
      rfl
    rw [addressOf, addressOf, Path.follow_of_up_notMem _ noUp,
      Path.follow_of_up_notMem _ aboveNoUp, sameStart, List.append_assoc,
      List.append_cancel_left_eq] at isAbove
    -- What is above the target has fewer names than the target.
    have fewer := names.length_le
    rw [← isAbove, Path.parent, List.length_append, List.length_dropLast] at fewer
    have none : target.names = [] := List.length_eq_zero_iff.mp (by omega)
    have directory := isTree.start_directory target
    rw [addressOf, none, Path.follow_nil, directory] at absent
    simp at absent

/-- Whether a disk is another one with the directories above a target made. -/
structure Prepared (target : Path) (before mid : Disk) : Prop where
  orderly : mid.Orderly
  isTree : mid.IsTree
  changes : Changes target.parent.LeadsThrough (fun _ => False) before mid
  found : ∃ address, mid.find target.parent = .ok (address, .directory)

theorem prepared_of_runOn_ensureDirectories (orderly : before.Orderly) (isTree : before.IsTree)
    (ensured : runOn (ensureDirectories target.parent) before = (.ok (), mid)) :
    Prepared target before mid := by
  have writes := writesOnly_ensureDirectories target.parent _ _ _ ensured orderly
  have ensures := ensures_ensureDirectories orderly.linkless ensured
  exact ⟨writes.orderly orderly, writes.isTree isTree orderly.linkless, ensures.changes,
    ensures.found rfl⟩

namespace Prepared

theorem addressOf_eq (prepared : Prepared target before mid) (path : Path) :
    mid.addressOf path = before.addressOf path :=
  addressOf_congr prepared.changes.current_eq path

theorem get?_eq_directory_iff (prepared : Prepared target before mid)
    (linkless : before.Linkless) :
    mid.get? address = some .directory ↔ before.IsOccupied target address := by
  constructor
  · intro there
    by_cases same : mid.get? address = before.get? address
    · exact Or.inl (same.symm.trans there)
    · rcases prepared.changes.exists_of_get?_ne linkless same with
        ⟨above, leads, isAbove, _⟩ | ⟨_, none, _⟩
      · exact Or.inr ⟨above, leads, isAbove⟩
      · exact none.elim
  · rintro (there | ⟨above, leads, rfl⟩)
    · exact prepared.changes.keeps.directory address there
    · rcases prepared.found with ⟨_, found⟩
      have midLinkless := prepared.orderly.linkless
      rcases exists_find_of_leadsThrough midLinkless found leads with ⟨_, aboveFound⟩
      have stands := prepared.isTree.get?_of_find midLinkless aboveFound
      rwa [address_eq_of_find midLinkless aboveFound, prepared.addressOf_eq] at stands

/-- Making directories leaves whatever is no directory as it is. -/
theorem get?_eq_iff (prepared : Prepared target before mid) (linkless : before.Linkless)
    {entry : Entry} (notDirectory : entry ≠ .directory) :
    mid.get? address = some entry ↔ before.get? address = some entry := by
  rcases prepared.changes.get?_eq_or_made linkless (fun _ => False.elim) with same | ⟨absent, new⟩
  · rw [same]
  · simp [absent, new, Ne.symm notDirectory]

/-- A file lands where it lands once the directories above the target have been made. -/
theorem lands_landing (prepared : Prepared target before mid) (linkless : before.Linkless)
    (there : before.get? (before.addressOf source ++ rest) = some (.file bytes)) :
    Lands before source target rest (mid.landing (source, target) rest) := by
  have inside : before.addressOf source ++ rest ≠ [] := by
    intro root
    simp [root, get?] at there
  have last := List.getLast?_eq_some_getLast inside
  by_cases occupied : mid.get? (before.addressOf target ++ rest) = some .directory
  · have lands : mid.landing (source, target) rest = before.addressOf target ++ rest ++
        [(before.addressOf source ++ rest).getLast inside] := by
      simp only [landing, prepared.addressOf_eq, if_pos occupied, last, Option.toList_some]
    rw [lands]
    exact .inside ((prepared.get?_eq_directory_iff linkless).mp occupied) last
  · have lands : mid.landing (source, target) rest = before.addressOf target ++ rest := by
      simp only [landing, prepared.addressOf_eq, if_neg occupied]
    rw [lands]
    exact .place fun isOccupied =>
      occupied ((prepared.get?_eq_directory_iff linkless).mpr isOccupied)

/-- What has landed once the directories above the target had been made has arrived. -/
theorem arrives (prepared : Prepared target before mid) (linkless : before.Linkless)
    (copied : Copied (mid.reach + 1) [(source, target)] mid after)
    (landed : Landed [(source, target)] mid after) : Arrives source target before after := by
  have midLinkless := prepared.orderly.linkless
  have writes := copied.writes prepared.orderly
  have changes := writes.changes midLinkless
  have mem := List.mem_singleton_self (source, target)
  have bytesIff : ∀ {address bytes}, mid.get? address = some (.file bytes) ↔
      before.get? address = some (.file bytes) := prepared.get?_eq_iff linkless (by simp)
  refine ⟨?_, ?_, ?_, ?_, ?_, ?_⟩
  · rcases copied.exists_find prepared.orderly _ mem with ⟨address, entry, found⟩
    have isAddress := address_eq_of_find (changes.linkless midLinkless) found
    rw [addressOf_congr changes.current_eq, prepared.addressOf_eq] at isAddress
    exact ⟨entry, isAddress ▸ found⟩
  · intro address occupied
    exact changes.keeps.directory address ((prepared.get?_eq_directory_iff linkless).mpr occupied)
  · intro rest there
    rw [← prepared.get?_eq_iff linkless (by simp), ← prepared.addressOf_eq] at there
    exact landed.readable _ mem rest there
  · intro rest bytes there
    refine ⟨_, prepared.lands_landing linkless there, ?_⟩
    rw [← bytesIff, ← prepared.addressOf_eq] at there
    exact landed.file _ mem rest bytes there
  · intro rest there
    have midThere := prepared.changes.keeps.directory _ there
    rw [← prepared.addressOf_eq] at midThere ⊢
    exact landed.directory _ mem rest midThere
  · intro address bytes stood apart
    refine landed.kept address bytes (bytesIff.mpr stood) fun item itemMem rest other there => ?_
    rw [List.mem_singleton] at itemMem
    rw [itemMem, prepared.addressOf_eq, bytesIff] at there
    rw [itemMem]
    rintro rfl
    exact apart rest other there (prepared.lands_landing linkless there)

end Prepared

/-- A copy of a file is the copy of a file, and it arrives. -/
theorem arrives_of_runOn_copyFile (orderly : before.Orderly) (isTree : before.IsTree)
    (run : runOn (copyFile source target) before = (.ok (), after)) :
    (∃ bytes, before.get? (before.addressOf source) = some (.file bytes)) ∧
      Arrives source target before after := by
  have linkless := orderly.linkless
  rw [copyFile, runOn_bind_eq_ok_iff] at run
  rcases run with ⟨_, _, required, run⟩
  rcases SiteConfig.runOn_requireFile_eq_ok_iff.mp required with ⟨_, rfl⟩
  rcases SiteConfig.runOn_copyTo_iff.mp run with ⟨mid, ensured, copied⟩
  have prepared := prepared_of_runOn_ensureDirectories orderly isTree ensured
  have midLinkless := prepared.orderly.linkless
  rcases runOn_copyFileWith_eq_ok_iff.mp copied with ⟨address, bytes, readable, different, put⟩
  have found := find_of_findReadable readable
  have stands := prepared.isTree.get?_of_find midLinkless found
  rw [address_eq_of_find midLinkless found, prepared.addressOf_eq,
    prepared.get?_eq_iff linkless (by simp)] at stands
  exact ⟨⟨bytes, stands⟩, prepared.arrives linkless (.file readable different put .done)
    (landed_file prepared.isTree midLinkless found put)⟩

/-- Whether none of two addresses is below the other; they may be the same. -/
def Unnested (address other : Address) : Prop :=
  Separate address other ∨ address = other

/-- A copy of a directory is the copy of a directory, and it arrives. -/
theorem arrives_of_runOn_copyTree (orderly : before.Orderly) (isTree : before.IsTree)
    (unnested : Unnested (before.addressOf target) (before.addressOf source))
    (run : runOn (copyTree source target) before = (.ok (), after)) :
    before.get? (before.addressOf source) = some .directory ∧
      Arrives source target before after := by
  have linkless := orderly.linkless
  rw [copyTree, runOn_bind_eq_ok_iff] at run
  rcases run with ⟨_, _, required, run⟩
  rcases SiteConfig.runOn_requireDirectory_eq_ok_iff.mp required with ⟨isDirectory, rfl⟩
  rcases isDirectory_eq_true_iff.mp isDirectory with ⟨address, found⟩
  rcases SiteConfig.runOn_copyTo_iff.mp run with ⟨mid, ensured, run⟩
  have prepared := prepared_of_runOn_ensureDirectories orderly isTree ensured
  have midLinkless := prepared.orderly.linkless
  have midFound := find_mono linkless midLinkless prepared.changes.keeps found
  rw [runOn_copyTree] at run
  have copied := (runOn_copyDirectory_iff_copied midFound).mp run
  have stands := isTree.get?_of_find linkless found
  rw [address_eq_of_find linkless found] at stands
  refine ⟨stands, prepared.arrives linkless copied ?_⟩
  rw [← prepared.addressOf_eq target, ← prepared.addressOf_eq source] at unnested
  rcases unnested with separate | same
  · have into : CopiesInto (mid.addressOf target) mid [(source, target)] :=
      ⟨by simpa using separate, by simp⟩
    exact copied.landed prepared.orderly prepared.isTree into (List.pairwise_singleton _ _)
  · exact copied.landed_of_same prepared.orderly prepared.isTree (by simpa using same)

/-- Everything that is copied arrives, and it is in its place exactly if no directory was in the
place of a file. -/
theorem inPlace_iff_of_copy (wellFormed : before.WellFormed) (linkless : before.Linkless)
    (isTree : before.IsTree) (source target : Path) (after : Disk) :
    (runOn (copyFile source target) before = (.ok (), after) →
      (∃ bytes, before.get? (before.addressOf source) = some (.file bytes)) ∧
        Arrives source target before after ∧
        (InPlace source target before after ↔ Unobstructed source target before)) ∧
    (Unnested (before.addressOf target) (before.addressOf source) →
      runOn (copyTree source target) before = (.ok (), after) →
        before.get? (before.addressOf source) = some .directory ∧
          Arrives source target before after ∧
          (InPlace source target before after ↔ Unobstructed source target before)) := by
  have orderly := wellFormed.orderly linkless
  constructor
  · intro run
    rcases arrives_of_runOn_copyFile orderly isTree run with ⟨isFile, arrives⟩
    exact ⟨isFile, arrives, arrives.inPlace_iff⟩
  · intro unnested run
    rcases arrives_of_runOn_copyTree orderly isTree unnested run with ⟨isDirectory, arrives⟩
    exact ⟨isDirectory, arrives, arrives.inPlace_iff⟩

/-- A disk with a file, a directory that has one of that name, and a directory to copy. -/
def shelves : Disk where
  entries :=
    [(["a".toList], .file (Utf8.encode "new".toList)),
      (["d".toList], .directory),
      (["d".toList, "a".toList], .file (Utf8.encode "old".toList)),
      (["s".toList], .directory),
      (["s".toList, "f".toList], .file (Utf8.encode "x".toList))]

/-- The path of an entry of the root. -/
def inRoot (name : Text) : Path :=
  { slashes := 1, names := [name] }

theorem shelves_ok : shelves.WellFormed ∧ shelves.Linkless ∧ shelves.IsTree :=
  ⟨⟨by decide, by decide⟩, linkless_of_entries (by simp [shelves]),
    isTree_of_entries rfl (by decide)⟩

/-- The disk once the file has been copied beside itself. -/
def besideEnd : Disk :=
  (runOn (copyFile (inRoot "a".toList) (inRoot "b".toList)) shelves).2

theorem runOn_copyFile_beside :
    runOn (copyFile (inRoot "a".toList) (inRoot "b".toList)) shelves = (.ok (), besideEnd) := by
  have succeeds :
      (runOn (copyFile (inRoot "a".toList) (inRoot "b".toList)) shelves).1 = .ok () := by
    decide +kernel
  exact Prod.ext succeeds rfl

/-- The disk once the directory to copy has been made in its new place. -/
def shelfMade : Disk :=
  (runOn (ensureDirectory (inRoot "t".toList)) shelves).2

/-- The disk once the directory has been copied. -/
def shelfEnd : Disk :=
  (runOn (writeFile ((inRoot "t".toList).child "f".toList) (Utf8.encode "x".toList)) shelfMade).2

theorem runOn_copyTree_shelf :
    runOn (copyTree (inRoot "s".toList) (inRoot "t".toList)) shelves = (.ok (), shelfEnd) := by
  have required : shelves.isDirectory (inRoot "s".toList) = .ok true := by decide +kernel
  have rooted : shelves.find (inRoot "t".toList).parent = .ok ([], .directory) := by decide +kernel
  have found : shelves.findReadable (inRoot "s".toList) = .ok (["s".toList], .directory) := by
    decide +kernel
  have names : shelves.sortedNames ["s".toList] = ["f".toList] := by
    rw [sortedNames_eq_insertionSort]
    decide +kernel
  have made : runOn (ensureDirectory (inRoot "t".toList)) shelves = (.ok (), shelfMade) := by
    have succeeds : (runOn (ensureDirectory (inRoot "t".toList)) shelves).1 = .ok () := by
      decide +kernel
    exact Prod.ext succeeds rfl
  have fileFound : shelfMade.findReadable ((inRoot "s".toList).child "f".toList) =
      .ok (["s".toList, "f".toList], .file (Utf8.encode "x".toList)) := by
    decide +kernel
  have place : shelfMade.copyPlace ((inRoot "s".toList).child "f".toList)
      ((inRoot "t".toList).child "f".toList) = (inRoot "t".toList).child "f".toList := by
    decide +kernel
  have written : runOn (writeFile ((inRoot "t".toList).child "f".toList) (Utf8.encode "x".toList))
      shelfMade = (.ok (), shelfEnd) := by
    have succeeds : (runOn (writeFile ((inRoot "t".toList).child "f".toList)
        (Utf8.encode "x".toList)) shelfMade).1 = .ok () := by
      decide +kernel
    exact Prod.ext succeeds rfl
  have sameRights := copyRights_of_denied_eq_nil (by decide +kernel : shelfEnd.denied = [])
  have copied : Copied (shelves.reach + 1) [(inRoot "s".toList, inRoot "t".toList)] shelves
      shelfEnd := by
    refine .directory found made ?_ (by rw [sameRights]; exact .done)
    rw [names]
    refine .file fileFound (by decide +kernel) ?_ .done
    rw [place]
    exact runOn_putCopy_eq_ok_iff.mpr ⟨shelfEnd, written, (sameRights _ _).symm⟩
  rw [copyTree, runOn_bind_eq_ok_iff]
  refine ⟨(), shelves, SiteConfig.runOn_requireDirectory_eq_ok_iff.mpr ⟨required, rfl⟩, ?_⟩
  rw [SiteConfig.runOn_copyTo_eq_ok_iff shelves_ok.2.1 rooted, runOn_copyTree]
  exact (runOn_copyDirectory_iff_copied (find_of_findReadable found)).mpr copied

/-- The file and the directory are copied to places that were free. -/
theorem inPlace_shelves :
    shelves.WellFormed ∧ shelves.Linkless ∧ shelves.IsTree ∧
      Unnested (shelves.addressOf (inRoot "t".toList)) (shelves.addressOf (inRoot "s".toList)) ∧
      runOn (copyFile (inRoot "a".toList) (inRoot "b".toList)) shelves = (.ok (), besideEnd) ∧
      InPlace (inRoot "a".toList) (inRoot "b".toList) shelves besideEnd ∧
      runOn (copyTree (inRoot "s".toList) (inRoot "t".toList)) shelves = (.ok (), shelfEnd) ∧
      InPlace (inRoot "s".toList) (inRoot "t".toList) shelves shelfEnd := by
  rcases shelves_ok with ⟨wellFormed, linkless, isTree⟩
  have unnested : Unnested (shelves.addressOf (inRoot "t".toList))
      (shelves.addressOf (inRoot "s".toList)) := Or.inl (by decide)
  have file := ((inPlace_iff_of_copy wellFormed linkless isTree _ _ _).1 runOn_copyFile_beside).2.2
  have tree :=
    ((inPlace_iff_of_copy wellFormed linkless isTree _ _ _).2 unnested runOn_copyTree_shelf).2.2
  exact ⟨wellFormed, linkless, isTree, unnested, runOn_copyFile_beside,
    file.mpr (unobstructed_of_absent isTree (by decide) (by decide) _), runOn_copyTree_shelf,
    tree.mpr (unobstructed_of_absent isTree (by decide) (by decide) _)⟩

/-- The disk once the file has been copied to the other directory. -/
def insideEnd : Disk :=
  (runOn (copyFile (inRoot "a".toList) (inRoot "d".toList)) shelves).2

/-- A copy of a file to a directory succeeds: the target stays a directory, and the file in it that
has the name of the source is lost. -/
theorem not_inPlace_inside :
    shelves.WellFormed ∧ shelves.Linkless ∧ shelves.IsTree ∧
      runOn (copyFile (inRoot "a".toList) (inRoot "d".toList)) shelves = (.ok (), insideEnd) ∧
      insideEnd.get? ["d".toList] = some .directory ∧
      insideEnd.get? ["d".toList, "a".toList] = some (.file (Utf8.encode "new".toList)) ∧
      ¬InPlace (inRoot "a".toList) (inRoot "d".toList) shelves insideEnd := by
  rcases shelves_ok with ⟨wellFormed, linkless, isTree⟩
  have succeeds :
      (runOn (copyFile (inRoot "a".toList) (inRoot "d".toList)) shelves).1 = .ok () := by
    decide +kernel
  have directory : insideEnd.get? ["d".toList] = some .directory := by decide +kernel
  have moved : insideEnd.get? ["d".toList, "a".toList] =
      some (.file (Utf8.encode "new".toList)) := by
    decide +kernel
  refine ⟨wellFormed, linkless, isTree, Prod.ext succeeds rfl, directory, moved, ?_⟩
  intro inPlace
  have isFile : insideEnd.get? ["d".toList] = some (.file (Utf8.encode "new".toList)) :=
    inPlace.file [] _ (by decide)
  rw [directory] at isFile
  simp at isFile

end ScriptSite
