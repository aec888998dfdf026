import ScriptSite.Command.Arguments
import ScriptSite.Disk.Resolve
import ScriptSite.Site.Build
import ScriptSite.Site.Settings

/-!
# The program

The program builds the site of a project. It tells what it has built, or the error that stopped it,
and ends with a status: zero for success, and two for an error of the user.
-/

namespace ScriptSite

namespace Command

/-- What a run of the program comes to: the disk and the output, and then the status and the text of
errors, unless it ends with a failure that the user is not told about. -/
structure Outcome where
  disk : Disk
  output : Text := []
  ending : Except Failure (Nat × Text)

/-- How the program is called. -/
def usage : Text :=
  "usage: bipdoc [-h] [--root ROOT] [--config CONFIG] [--group GROUP]\n".toList

/-- What the program does, and what its options mean. -/
def help : Text :=
  usage ++ Text.unlines (["",
    "Build the example site: `src/<group>/*.bip` -> `html/<group>/*.html`.",
    "",
    "options:",
    "  -h, --help       show this help message and exit",
    "  --root ROOT      Project root (default: cwd)",
    "  --config CONFIG  Config file (default: <root>/bipdoc.yaml if present)",
    "  --group GROUP    Only render this group directory (repeatable)",
    ""].map String.toList)

def errorStatus : Nat :=
  2

/-- The configuration that arguments ask for, for a project with a root. -/
def config (arguments : Arguments) (root : Path) : DiskAction Failure SiteConfig := do
  let path? := (arguments.config.filter (!·.isEmpty)).map Path.ofText
  let config ← SiteConfig.load root path?
  return if arguments.groups.isEmpty then config
    else { config with groups := some arguments.groups }

/-- The last words after a build. -/
def summary (config : SiteConfig) (root : Path) (report : BuildReport) : Text :=
  "\nDone. ".toList ++ Text.ofNat report.pages.length ++ " examples".toList ++ BuildReport.arrow ++
    (config.outputRoot.relativeTo root).toText ++ ['\n']

/-- The end of a run that failed. -/
def endingOf : Failure → Except Failure (Nat × Text)
  | .reported error => .ok (errorStatus, "error: ".toList ++ error.message ++ ['\n'])
  | failure => .error failure

def buildSite (config : SiteConfig) (root : Path) (disk : Disk) : Outcome :=
  let (result, progress) := config.buildOn disk
  let told := progress.report.toText
  match result with
  | .ok _ =>
    { disk := progress.disk, output := told ++ summary config root progress.report,
      ending := .ok (0, []) }
  | .error failure => { disk := progress.disk, output := told, ending := endingOf failure }

/-- Builds the site that arguments ask for. -/
def build (arguments : Arguments) (disk : Disk) : Outcome :=
  match disk.resolve (Path.ofText arguments.root) with
  | .error (.refused _) => { disk, ending := .error .endlessLink }
  | .error .unnameable => { disk, ending := .error .unnameable }
  | .ok root =>
    match (config arguments root).run.run disk with
    | (.error failure, disk) => { disk, ending := endingOf failure }
    | (.ok config, disk) => buildSite config root disk

/-- Runs the program with its arguments. -/
def run (argv : List Text) (disk : Disk) : Outcome :=
  match Arguments.read argv with
  | .error fault =>
    { disk, ending :=
        .ok (errorStatus, usage ++ "bipdoc: error: ".toList ++ fault.message ++ ['\n']) }
  | .ok .help => { disk, output := help, ending := .ok (0, []) }
  | .ok (.build arguments) => build arguments disk

end Command

end ScriptSite
