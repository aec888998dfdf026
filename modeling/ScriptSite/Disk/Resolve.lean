import ScriptSite.Disk.Walk

/-!
# Real paths

The real path of a path starts at the root and goes through no symbolic link. Names that are not
there are kept. From a link that leads back to itself on, the path is kept as it is.
-/

namespace ScriptSite.Disk

/-- Names that lead to a place, and whether all links on the way were followed. -/
abbrev Way := List Text × Bool

/-- Follows names from a directory. `follow` follows the target of a link, given the directory that
it starts at. -/
def resolveNames (disk : Disk) (follow : (link : Address) → (start : Address) → List Text → Way) :
    (here : Address) → (names : List Text) → Way
  | here, [] => (here, true)
  | here, name :: rest =>
    if name = Path.upName then resolveNames disk follow here.dropLast rest
    else
      match disk.get? (here ++ [name]) with
      | some (.link target) =>
        let path := Path.ofText target
        let (there, complete) :=
          follow (here ++ [name]) (if path.isAbsolute then [] else here) path.names
        if complete then resolveNames disk follow there rest else (there ++ rest, false)
      | _ => resolveNames disk follow (here ++ [name]) rest

/-- Follows names from a directory, and in them fewer than `links` links inside each other, none of
which is one of those that are being followed. -/
def resolveWithin (disk : Disk) :
    (links : Nat) → (busy : List Address) → (here : Address) → (names : List Text) → Way
  | 0, _, here, names => (here ++ names, false)
  | links + 1, busy, here, names =>
    resolveNames disk
      (fun link start names =>
        if busy.contains link then (link, false)
        else resolveWithin disk links (link :: busy) start names)
      here names

/-- The real path of a path. There is none if the path goes through a link that leads to itself,
unless it leads back up from there, or if it has a character that no name has. -/
def resolve (disk : Disk) (path : Path) : Except DiskFault Path :=
  if path.names.any fun name => name.contains '\x00' then .error .unnameable
  else
    let (names, _) :=
      disk.resolveWithin (disk.entries.length + 1) [] (if path.isAbsolute then [] else disk.current)
        path.names
    let real : Path := { slashes := 1, names := Path.withoutUps names }
    match disk.find real with
    | .error (.refused .tooManyLinks) => .error (.refused .tooManyLinks)
    | _ => .ok real

end ScriptSite.Disk
