import StyleAudit.Run

/-!
# The command line program

- `realDisk`: the files of this machine as a `Disk`.
- `main`: a run by its command line. While watching, the workspace is checked again whenever
  one of its files has changed.
-/

namespace StyleAudit

/-- A text as a path or line of output. -/
def Text.toString (text : Text) : String := String.ofList text

/-- Why reading failed. -/
def faultOf (error : IO.Error) : ReadFault :=
  match error with
  | .noFileOrDirectory .. => .missing
  | .inappropriateType _ 20 _ => .notFolder
  | .inappropriateType _ 21 _ => .isFolder
  | .invalidArgument _ 36 _ => .nameTooLong
  | error => .other error.toString.toList

/-- The text of a file. -/
def readReal (path : Text) : IO (Except ReadFault Text) := do
  try
    let bytes ← IO.FS.readBinFile path.toString
    match String.fromUTF8? bytes with
    | some text => return .ok text.toList
    | none => return .error .notText
  catch error => return .error (faultOf error)

/-- The files of folder entries, by name, each below `path`. Links are not followed. -/
partial def filesOf (path : Text) (entries : Array IO.FS.DirEntry) : IO (List Text) := do
  let byName := entries.toList.mergeSort fun a b =>
    FileTree.comesBefore a.fileName.toList b.fileName.toList
  let found ← byName.mapM fun entry => do
    let here := Path.join path entry.fileName.toList
    try
      match (← entry.path.symlinkMetadata).type with
      | .file => return [here]
      | .dir => filesOf here (← entry.path.readDir)
      | _ => return []
    catch _ => return []
  return found.flatten

/-- The files below a path. -/
def realFiles (path : Text) : IO (List Text) := do
  try
    let place ← IO.FS.realPath path.toString
    match (← place.metadata).type with
    | .file => return [[]]
    | .dir => filesOf [] (← place.readDir)
    | _ => return []
  catch _ => return []

/-- The files of this machine. -/
def realDisk : Disk IO where
  read := readReal
  has path := do
    match ← readReal path with
    | .error .missing | .error .notFolder | .error .nameTooLong => return false
    | _ => return true
  files := realFiles
  clock := IO.monoNanosNow

/-- Digits after a point, without zeros at the end. -/
def fractionText (width part : Nat) : Text :=
  let digits := Text.ofNat part
  let padded := List.replicate (width - digits.length) '0' ++ digits
  let kept := (padded.reverse.dropWhile (· == '0')).reverse
  if kept.isEmpty then [] else '.' :: kept

/-- A duration in the largest unit that it reaches. -/
def durationText (nanoseconds : Nat) : Text :=
  if nanoseconds ≥ 1000000000 then
    Text.ofNat (nanoseconds / 1000000000) ++ fractionText 9 (nanoseconds % 1000000000) ++ "s".toList
  else if nanoseconds ≥ 1000000 then
    Text.ofNat (nanoseconds / 1000000) ++ fractionText 6 (nanoseconds % 1000000) ++ "ms".toList
  else if nanoseconds ≥ 1000 then
    Text.ofNat (nanoseconds / 1000) ++ fractionText 3 (nanoseconds % 1000) ++ "µs".toList
  else Text.ofNat nanoseconds ++ "ns".toList

/-- Print what a run has to say. -/
def Outcome.print (outcome : Outcome) : IO Unit := do
  (← IO.getStderr).putStr outcome.stderr.toString
  (← IO.getStdout).putStr outcome.stdout.toString

/-- The texts of the files that a run would check. -/
def snapshot (settings : Settings) : IO (List (Text × Option Text)) := do
  let files := (← realFiles settings.workspace).filter settings.selects
  files.mapM fun relative => do
    return (relative, (← readReal (settings.pathOf relative)).toOption)

/-- Check again whenever a file has changed. -/
partial def watchFrom (current : Text) (arguments : Arguments) (settings : Settings)
    (seen : List (Text × Option Text)) : IO Unit := do
  IO.sleep 1000
  let now ← snapshot settings
  if now != seen then
    if !arguments.preserveWatchOutput then IO.print "\x1b[2J\x1b[1;1H"
    IO.println "File changed, re-checking...\n"
    (← run realDisk durationText current arguments).print
  watchFrom current arguments settings now

/-- How the program is called. -/
def usageText : String :=
  "Usage: countess [--workspace DIR] [--output human|human-verbose|json|machine]\n" ++
    "  [--threshold error|warning] [--checks LIST] [--ignore GLOB]... [--config FILE]\n" ++
    "  [--fail-on-warnings] [--watch] [--preserveWatchOutput] [--emit-normalized]\n" ++
    "  [--timings] [-v|--verbose] [-h|--help] [-V|--version]"

/-- A run by its arguments. -/
def runReal (arguments : Arguments) : IO UInt32 := do
  let current := (← IO.currentDir).toString.toList
  if arguments.watch then
    match ← loadSettings realDisk current arguments with
    | .ok settings =>
      IO.println "Starting watch mode...\n"
      let seen ← snapshot settings
      (← run realDisk durationText current arguments).print
      IO.println "Watching for changes... (Ctrl+C to stop)\n"
      watchFrom current arguments settings seen
      return 0
    | .error _ => pure ()
  let outcome ← run realDisk durationText current arguments
  outcome.print
  return outcome.exitCode.toUInt32

end StyleAudit

open StyleAudit

/-- A run by its command line. -/
def main (words : List String) : IO UInt32 := do
  match Arguments.ofWords (words.map String.toList) with
  | .ok arguments => runReal arguments
  | .error .version => IO.print versionText.toString; return 0
  | .error .help => IO.println usageText; return 0
  | .error refusal => IO.eprintln usageText; return refusal.exitCode.toUInt32
