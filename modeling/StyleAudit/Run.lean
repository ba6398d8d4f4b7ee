import StyleAudit.Check
import StyleAudit.FileTree

/-!
# Runs

A run reads its configuration, finds the files of the workspace, checks them and reports.
What it needs of the world is a `Disk`, so that it runs on a real one as well as on a
`FileTree`.

- `Disk`, `FileTree.disk`: what can be read.
- `RunFailure`: why a run cannot start.
- `Outcome`: what a run prints and its exit code.
- `run`: a run by its arguments; `command`: a run by its command line.
-/

namespace StyleAudit

/-- What a run needs of the world. -/
structure Disk (m : Type → Type) where
  /-- The text of a file. -/
  read : Text → m (Except ReadFault Text)
  /-- Whether a path leads somewhere. -/
  has : Text → m Bool
  /-- The files below a path, seen from it, in the order of their names. -/
  files : Text → m (List Text)
  /-- The time in nanoseconds. -/
  clock : m Nat

/-- A tree of files in which time stands still. -/
def FileTree.disk (tree : FileTree) : Disk Id where
  read path := tree.read path
  has path := tree.has path
  files path := tree.files path
  clock := (0 : Nat)

/-- Why a run cannot start. -/
inductive RunFailure where
  | unreadableConfig (path : Text) (fault : ReadFault)
  | invalidConfig (path : Text) (fault : Json.Fault)
  | invalidPattern (error : GlobError)
  deriving DecidableEq, Repr

/-- The wording of a failure. -/
def RunFailure.message : RunFailure → Text
  | unreadableConfig path fault =>
    "failed to read ".toList ++ path ++ ": ".toList ++ fault.message
  | invalidConfig path fault => "invalid config ".toList ++ path ++ ": ".toList ++ fault.message
  | invalidPattern error => "invalid glob pattern: ".toList ++ error.message

/-- What a run prints, and its exit code. -/
structure Outcome where
  exitCode : Nat
  stdout : Text
  stderr : Text
  deriving DecidableEq, Repr

/-- The name of a workspace's configuration. -/
def configName : Text := "countess.config.json".toList

/-! ## Timings -/

/-- How long the parts of a run took, in nanoseconds, and its slowest file. -/
structure Timings where
  files : Nat
  scan : Nat
  analysis : Nat
  slowest : Option (Text × Nat)
  total : Nat

/-- The lines of timings, for a way to write durations. -/
def Timings.text (timings : Timings) (write : Nat → Text) : Text :=
  "=== countess timings ===\nfile scan: ".toList ++ write timings.scan ++ " (".toList ++
    Text.ofNat timings.files ++ " files)\nanalysis: ".toList ++ write timings.analysis ++ "\n".toList ++
    (match timings.slowest with
      | some (path, duration) =>
        "slowest file: ".toList ++ path ++ " (".toList ++ write duration ++ ")\n".toList
      | none => []) ++
    "total: ".toList ++ write timings.total ++ "\n".toList

/-- The last of the files that took longest. -/
def slowestOf : List (Text × Nat) → Option (Text × Nat)
  | [] => none
  | first :: rest =>
    some (rest.foldl (fun best file => if best.2 ≤ file.2 then file else best) first)

/-! ## Runs -/

section

variable {m : Type → Type} [Monad m]

/-- The configuration of a run. One that is asked for has to exist; otherwise the
workspace's own is taken if there is one. -/
def loadConfig (disk : Disk m) (workspace : Text) (asked : Option Text) :
    m (Except RunFailure Config) := do
  let path := Path.join workspace (asked.getD configName)
  if asked.isNone && !(← disk.has path) then return .ok .default
  match ← disk.read path with
  | .error fault => return .error (.unreadableConfig path fault)
  | .ok text => return (Config.ofText text).mapError (.invalidConfig path)

/-- The settings of a run that starts in the folder `current`. -/
def loadSettings (disk : Disk m) (current : Text) (arguments : Arguments) :
    m (Except RunFailure Settings) := do
  let workspace := Path.join current arguments.workspace
  match ← loadConfig disk workspace arguments.config with
  | .error failure => return .error failure
  | .ok config => return (Settings.make workspace arguments config).mapError .invalidPattern

/-- Read and check a file; how long it took. -/
def checkOne (disk : Disk m) (settings : Settings) (relative : Text) :
    m (Option (CheckedFile × Nat)) := do
  let start ← disk.clock
  match ← disk.read (settings.pathOf relative) with
  | .error _ => return none
  | .ok source =>
    let checked := settings.check relative source
    return some (checked, (← disk.clock) - start)

/-- One check of the workspace. -/
def checkWorkspace (disk : Disk m) (settings : Settings) : m (CheckReport × Timings) := do
  let start ← disk.clock
  let files := (← disk.files settings.workspace).filter settings.selects
  let scanned ← disk.clock
  let checked := (← files.mapM (checkOne disk settings)).filterMap id
  let stop ← disk.clock
  let slowest := slowestOf (checked.map fun (file, time) => (settings.pathOf file.relative, time))
  return (settings.reportChecked files.length (checked.map Prod.fst),
    ⟨files.length, scanned - start, stop - scanned, slowest, stop - start⟩)

/-- A run by its arguments, started in the folder `current`. -/
def run (disk : Disk m) (write : Nat → Text) (current : Text) (arguments : Arguments) :
    m Outcome := do
  match ← loadSettings disk current arguments with
  | .error failure => return ⟨1, [], "Error: ".toList ++ failure.message ++ "\n".toList⟩
  | .ok settings =>
    let (report, timings) ← checkWorkspace disk settings
    return {
      exitCode := if report.summary.failed then 1 else 0
      stdout := report.output
      stderr := report.aside ++ if arguments.timings then timings.text write else [] }

/-- A run by its command line, started in the folder `current`. -/
def command (disk : Disk m) (write : Nat → Text) (current : Text) (words : List Text) :
    m (Except Refusal Outcome) := do
  match Arguments.ofWords words with
  | .error refusal => return .error refusal
  | .ok arguments => return .ok (← run disk write current arguments)

end

/-- What the request for the version prints. -/
def versionText : Text := "countess 0.3.0\n".toList

end StyleAudit
