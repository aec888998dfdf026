import ScriptSite.Command.Run

/-!
# The command line

The files that a run can touch are read into a disk, the program runs on that disk, and what has
changed on it is written back.
-/

namespace ScriptSite

namespace Command

/-- The paths at which a run of the program looks, as far as the disk tells. -/
def places (argv : List Text) (disk : Disk) : List Path :=
  match Arguments.read argv with
  | .ok (.build arguments) =>
    let root := Path.ofText arguments.root
    let given := root :: (arguments.config.map Path.ofText).toList
    match ((config arguments root).run.run disk).1 with
    | .ok config =>
      given ++ [config.inputRoot, config.outputRoot, config.indexPath, config.demosPath] ++
        config.assetDirectories ++ config.assetFiles ++
        (config.groups.getD []).map fun group => config.inputRoot.join (.ofText group)
    | .error _ => given
  | _ => []

end Command

namespace CommandLine

def systemPath (address : Address) : String :=
  String.ofList (Path.toText { slashes := 1, names := address })

/-- The addresses of the directories above an address, from the root down. -/
def above (address : Address) : List Address :=
  (List.range address.length).map address.take

/-- Reads what stands at an address, and with `deep` all that is below it. A link is kept with the
real path of its target, and what stands there is read as well; a link that leads nowhere is left
out. -/
partial def load (deep : Bool) (address : Address) : StateT Disk IO Unit := do
  let known := (← get).entries.lookup address
  if known.isSome && !(deep && known == some .directory) then return
  match ← (IO.FS.realPath (systemPath address)).toBaseIO with
  | .error _ => return
  | .ok real =>
    if !(← real.pathExists) then return
    let target := real.toString.toList
    if real.toString != systemPath address then
      modify (·.set address (.link target))
      let names := (Path.ofText target).names
      (above names).forM (load false)
      load deep names
    else if ← real.isDir then
      if !address.isEmpty then modify (·.set address .directory)
      if deep then
        for entry in ← real.readDir do
          load true (address ++ [entry.fileName.toList])
    else
      match ← (IO.FS.readBinFile real).toBaseIO with
      | .ok bytes => modify (·.set address (.file bytes.toList))
      | .error _ => modify (·.set address .unreadable)

/-- Reads what stands at a path and below it, and the directories above it. -/
def loadPath (path : Path) : StateT Disk IO Unit := do
  let current := (← get).current
  let address := Path.withoutUps ((if path.isAbsolute then [] else current) ++ path.names)
  (above address).forM (load false)
  load true address

/-- Writes back what has changed between two disks. -/
def store (before after : Disk) : IO Unit :=
  after.entries.forM fun (address, entry) => do
    if before.get? address != some entry then
      match entry with
      | .file bytes => IO.FS.writeBinFile (systemPath address) ⟨bytes.toArray⟩
      | .directory => IO.FS.createDirAll (systemPath address)
      | .link _ | .unreadable => return

/-- The disk with all that a run of the program can touch. The configuration tells of more places
once it has been read. -/
def readDisk (argv : List Text) : IO Disk := do
  let current := (Path.ofText (← IO.currentDir).toString.toList).names
  let loadPlaces : StateT Disk IO Unit := do
    (Command.places argv (← get)).forM loadPath
  let (_, disk) ← (loadPlaces *> loadPlaces).run { current }
  return disk

end CommandLine

end ScriptSite

/-- Builds the site that the arguments ask for. -/
def main (args : List String) : IO UInt32 := do
  let argv := args.map String.toList
  let disk ← ScriptSite.CommandLine.readDisk argv
  let outcome := ScriptSite.Command.run argv disk
  ScriptSite.CommandLine.store disk outcome.disk
  IO.print (String.ofList outcome.output)
  match outcome.ending with
  | .ok (status, errors) =>
    IO.eprint (String.ofList errors)
    return UInt32.ofNat status
  | .error _ =>
    IO.eprintln "error: the site cannot be built"
    return 1
