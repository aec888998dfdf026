import ScriptSite.Proofs.Disk.Depth
import ScriptSite.Proofs.Site.Asset
import ScriptSite.Proofs.Site.Fault

/-!
# Where a build stops without a word

A build that stops tells the user why, with a few exceptions (`stops_of_buildOn`): a path that it
looks at is too long, a directory where it looks for sources may not be listed, the root of the
output cannot be named, a catalog is written in an encoding that is unknown or too wide, or an asset
has too many directories inside each other. So whatever is wrong with a source is told, and whatever
is wrong with a catalog but for its encoding.
-/

namespace ScriptSite

open Disk

variable {before after : Disk} {path source out : Path}

/-- Whether the user is told about a failure. -/
def Failure.IsReported (failure : Failure) : Prop :=
  ∃ error, failure = .reported error

namespace SiteConfig

variable {config : SiteConfig} {group name element : Text}

/-- The paths that a build looks at: the root of the input and what is in it, and the groups, the
catalogs and the assets that are asked for. -/
inductive LooksAt (config : SiteConfig) : Path → Prop
  | input {path : Path} (leads : path.LeadsThrough config.inputRoot) : config.LooksAt path
  | group {group : Text} (mem : group ∈ config.groups.getD []) :
      config.LooksAt (config.inputRoot.join (.ofText group))
  | index : config.LooksAt config.indexPath
  | demos : config.LooksAt config.demosPath
  | asset {asset : Path} (mem : asset ∈ config.assets) : config.LooksAt asset

/-- The directories that are listed to find the sources: the root of the input and the groups in it
that are to be built. -/
inductive Lists (config : SiteConfig) : Path → Prop
  | input : config.Lists config.inputRoot
  | group {group : Text} (included : config.includes group = true) :
      config.Lists (config.inputRoot.child group)

/-- Where the disk refuses a look: at a path that is too long, or into a directory that may not be
listed. -/
inductive Refuses (config : SiteConfig) (disk : Disk) : Failure → Prop
  | tooLong {path : Path} (looksAt : config.LooksAt path)
      (refused : disk.find path = .error (.refused .nameTooLong)) :
      config.Refuses disk (.refused .nameTooLong)
  | unlisted {directory : Path} {address : Address} (lists : config.Lists directory)
      (found : disk.find directory = .ok (address, .directory))
      (denied : disk.denies .reading address = true) :
      config.Refuses disk (.refused .permissionDenied)

/-- What the user is not told about when a build stops on a disk. -/
inductive StopsUntold (config : SiteConfig) (disk : Disk) : Failure → Prop
  | refused {failure : Failure} (refuses : config.Refuses disk failure) :
      config.StopsUntold disk failure
  | unnameable (unnameable : ¬config.outputRoot.IsNameable) : config.StopsUntold disk .unnameable
  | unknownEncoding {catalog : Path} {element encoding : Text} {address : Address} {bytes : Bytes}
      {position : Xml.Position}
      (isCatalog : config.IsCatalog catalog element)
      (found : disk.find catalog = .ok (address, .file bytes))
      (unknown : Catalog.readBytes element bytes =
        .error (.notXml ⟨.unknownEncoding encoding, position⟩)) :
      config.StopsUntold disk .unknownEncoding
  | widerEncoding {catalog : Path} {element : Text} {address : Address} {bytes : Bytes}
      {position : Xml.Position}
      (isCatalog : config.IsCatalog catalog element)
      (found : disk.find catalog = .ok (address, .file bytes))
      (wider : Catalog.readBytes element bytes = .error (.notXml ⟨.widerEncoding, position⟩)) :
      config.StopsUntold disk .widerEncoding
  | tooDeep {asset : Path} (mem : asset ∈ config.assetDirectories)
      (down : disk.GoesDown asset (disk.reach + 1)) : config.StopsUntold disk .tooDeep

/-- Whether a failure on a disk is told to the user, or one of the others that stop a build. -/
def Stops (config : SiteConfig) (disk : Disk) (failure : Failure) : Prop :=
  failure.IsReported ∨ config.StopsUntold disk failure

theorem tooLong_of_test {p : Entry → Bool} {error : DiskError}
    (failed : before.test p path = .error error) :
    error = .nameTooLong ∧ before.find path = .error (.refused .nameTooLong) := by
  rw [test] at failed
  split at failed
  · cases failed
  · rename_i found
    cases failed
    exact ⟨rfl, found⟩
  · cases failed

theorem Refuses.stops {disk : Disk} {failure : Failure} (refuses : config.Refuses disk failure) :
    config.Stops disk failure :=
  Or.inr (.refused refuses)

/-- Whether a failure on a disk is that of missing something at a path. -/
def Misses (config : SiteConfig) (kind : InputKind) (path : Path) (disk : Disk)
    (failure : Failure) : Prop :=
  failure = .reported (.missing kind path) ∨ config.Refuses disk failure

theorem Misses.stops {kind : InputKind} {disk : Disk} {failure : Failure}
    (misses : config.Misses kind path disk failure) : config.Stops disk failure := by
  rcases misses with rfl | refuses
  · exact Or.inl ⟨_, rfl⟩
  · exact refuses.stops

/-- Testing an entry is refused at a path that is too long only. -/
theorem refuses_of_test {disk : Disk} {p : Entry → Bool} {failure : Failure}
    (looksAt : config.LooksAt path)
    (failed : (disk.test p path).mapError Failure.refused = .error failure) :
    config.Refuses disk failure := by
  rcases exists_of_mapError_eq_error failed with ⟨error, refused, rfl⟩
  rcases tooLong_of_test refused with ⟨rfl, found⟩
  exact .tooLong looksAt found

theorem stopsOnly_isDirectory (looksAt : config.LooksAt path) :
    StopsOnly config.Refuses (isDirectory path) := by
  intro before after failure run
  rw [runOn_isDirectory, Prod.mk.injEq] at run
  exact run.2 ▸ refuses_of_test looksAt run.1

theorem stopsOnly_isFile (looksAt : config.LooksAt path) :
    StopsOnly config.Refuses (isFile path) := by
  intro before after failure run
  rw [runOn_isFile, Prod.mk.injEq] at run
  exact run.2 ▸ refuses_of_test looksAt run.1

theorem stopsOnly_requireDirectory (kind : InputKind) (looksAt : config.LooksAt path) :
    StopsOnly (config.Misses kind path) (requireDirectory kind path) := by
  refine StopsOnly.bind ((stopsOnly_isDirectory looksAt).mono fun _ _ => Or.inr) fun holds => ?_
  cases holds with
  | false =>
      intro before after failure run
      cases run
      exact Or.inl rfl
  | true => exact .pure _ _

theorem stopsOnly_isSource (looksAt : config.LooksAt path) :
    StopsOnly config.Refuses (config.isSource path) := by
  refine (stopsOnly_isFile looksAt).bind fun holds => ?_
  cases holds <;> exact .pure _ _

theorem leadsThrough_child (leads : path.LeadsThrough out) (name : Text) :
    (path.child name).LeadsThrough out :=
  ⟨leads.1, leads.2.trans (List.prefix_append _ _)⟩

/-- Listing a directory that is there is refused if it may not be listed, and in no other case. -/
theorem refuses_of_runOn_children {failure : Failure} {address : Address}
    (lists : config.Lists path) (found : before.find path = .ok (address, .directory))
    (run : runOn (children path) before = (.error failure, after)) :
    config.Refuses after failure := by
  have unchanged := (onlyLooks_children path).eq_of_runOn run
  subst unchanged
  cases denied : after.denies .reading address with
  | false =>
      rw [runOn_children_of_findReadable (findReadable_eq_ok_iff.mpr ⟨found, denied⟩)] at run
      cases run
  | true =>
      rw [children, runOn_bind, runOn_adapt, Disk.list, runOn_bind, runOn_get] at run
      simp only [found, denied, if_true] at run
      cases run
      exact .unlisted lists found denied

theorem stopsOnly_sourcesOf (config : SiteConfig) (group : Text) :
    StopsOnly config.Refuses (config.sourcesOf (config.inputRoot.child group)) := by
  have leads := leadsThrough_child (.refl config.inputRoot) group
  intro before after failure run
  rw [sourcesOf, runOn_bind_eq_error_iff] at run
  rcases run with failed | ⟨holds, mid, tested, run⟩
  · exact stopsOnly_isDirectory (.input leads) _ _ _ failed
  · rcases runOn_isDirectory_eq_ok_iff.mp tested with ⟨isDirectory, rfl⟩
    cases holds with
    | false => cases run
    | true =>
        rcases isDirectory_eq_true_iff.mp isDirectory with ⟨address, found⟩
        simp only [Bool.not_true, Bool.false_eq_true, if_false, name_child] at run
        split at run
        · cases run
        · rename_i included
          rcases runOn_bind_eq_error_iff.mp run with failed | ⟨paths, later, listed, run⟩
          · exact refuses_of_runOn_children (.group (by simpa using included)) found failed
          · rcases exists_of_runOn_children listed with ⟨_, _, rfl, rfl⟩
            refine StopsOnly.filterM (fun entry mem => ?_) _ _ _ run
            rcases List.mem_map.mp mem with ⟨name, _, rfl⟩
            exact stopsOnly_isSource (.input (leadsThrough_child leads name))

/-- Where the root of the input is there, looking what is in it is refused in the ways that are
listed. -/
theorem refuses_of_runOn_listing {failure : Failure} {address : Address}
    (found : before.find config.inputRoot = .ok (address, .directory))
    (run : runOn (do
      return (← (← children config.inputRoot).mapM config.sourcesOf).flatten) before =
        (.error failure, after)) : config.Refuses after failure := by
  rcases runOn_bind_eq_error_iff.mp run with failed | ⟨paths, mid, listed, run⟩
  · exact refuses_of_runOn_children .input found failed
  · rcases exists_of_runOn_children listed with ⟨_, _, rfl, rfl⟩
    refine StopsOnly.bind (StopsOnly.mapM fun group mem => ?_) (fun _ => .pure _ _) _ _ _ run
    rcases List.mem_map.mp mem with ⟨name, _, rfl⟩
    exact stopsOnly_sourcesOf config name

/-- Where the root of the input is there and no groups are asked for, looking for the sources fails
only because the disk refuses a look. -/
theorem refuses_of_runOn_sources {failure : Failure} {address : Address}
    (found : before.find config.inputRoot = .ok (address, .directory))
    (all : config.groups = none) (run : runOn config.sources before = (.error failure, after)) :
    config.Refuses before failure := by
  have unchanged := (onlyLooks_sources config).eq_of_runOn run
  have required : runOn (requireDirectory .inputDirectory config.inputRoot) before =
      (.ok (), before) :=
    runOn_requireDirectory_eq_ok_iff.mpr ⟨isDirectory_eq_true_iff.mpr ⟨address, found⟩, rfl⟩
  rw [sources, all, runOn_bind, required] at run
  have refuses := refuses_of_runOn_listing found run
  rwa [unchanged] at refuses

/-- How looking for the sources stops: the root of the input or a group that is asked for is
missing, or the disk refuses a look at what is there. -/
inductive StopsLooking (config : SiteConfig) (disk : Disk) (failure : Failure) : Prop
  | input (misses : config.Misses .inputDirectory config.inputRoot disk failure)
  | group {group : Text} (mem : group ∈ config.groups.getD [])
      (misses : config.Misses .groupDirectory (config.inputRoot.join (.ofText group)) disk failure)
  | entry (refuses : config.Refuses disk failure)

theorem StopsLooking.stops {disk : Disk} {failure : Failure}
    (stops : config.StopsLooking disk failure) : config.Stops disk failure := by
  cases stops with
  | input misses => exact misses.stops
  | group _ misses => exact misses.stops
  | entry refuses => exact refuses.stops

theorem stopsOnly_sources (config : SiteConfig) :
    StopsOnly config.StopsLooking config.sources := by
  intro before after failure run
  rw [sources, runOn_bind_eq_error_iff] at run
  rcases run with failed | ⟨_, mid, required, run⟩
  · exact .input (stopsOnly_requireDirectory _ (.input (.refl _)) _ _ _ failed)
  · rcases runOn_requireDirectory_eq_ok_iff.mp required with ⟨isDirectory, rfl⟩
    rcases isDirectory_eq_true_iff.mp isDirectory with ⟨address, found⟩
    rw [runOn_bind_eq_error_iff] at run
    rcases run with failed | ⟨_, later, groupsRequired, run⟩
    · refine StopsOnly.forM (fun group mem => ?_) _ _ _ failed
      exact (stopsOnly_requireDirectory _ (.group mem)).mono fun _ _ => .group mem
    · have same :=
        (OnlyLooks.forM (fun _ => onlyLooks_requireDirectory _ _) _).eq_of_runOn groupsRequired
      subst same
      exact .entry (refuses_of_runOn_listing found run)

end SiteConfig

end ScriptSite
