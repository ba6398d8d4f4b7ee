import StyleAudit.Report
import StyleAudit.Text.Blank

/-!
# Command line arguments

- `Arguments`: what a run is asked to do.
- `Refusal`: why there is no run: a mistake, or a request for help or the version.
- `Arguments.ofWords`: the arguments that a command line stands for.

An option with a value is settled only when the next option or flag is recognised or the
command line ends, so an unknown word after it is noticed before a mistake in its value.
-/

namespace StyleAudit

/-- The least severity that is reported. -/
inductive Threshold where
  | error | warning
  deriving DecidableEq, Repr

/-- What a run is asked to do. -/
structure Arguments where
  /-- The directory that is scanned. -/
  workspace : Text
  output : Format
  threshold : Threshold
  /-- The checks to run, separated by commas; all of them if none are given. -/
  checks : Option Text
  /-- Patterns of paths that are skipped. -/
  ignore : List Text
  failOnWarnings : Bool
  watch : Bool
  preserveWatchOutput : Bool
  /-- Whether the normalised markup of each file is shown. -/
  emitNormalized : Bool
  timings : Bool
  /-- The path of the configuration. -/
  config : Option Text
  verbose : Bool
  deriving DecidableEq, Repr

/-- Why there is no run. -/
inductive Refusal where
  | invalidValue
  | conflict
  | unknownArgument
  | tooManyValues
  | help
  | version
  deriving DecidableEq, Repr

/-- The exit code of a refusal. -/
def Refusal.exitCode : Refusal → Nat
  | help | version => 0
  | _ => 2

namespace Arguments

/-- The arguments of an empty command line. -/
def default : Arguments where
  workspace := ['.']
  output := .human
  threshold := .warning
  checks := none
  ignore := []
  failOnWarnings := false
  watch := false
  preserveWatchOutput := false
  emitNormalized := false
  timings := false
  config := none
  verbose := false

/-- Whether a check is among those to run. -/
def includes (arguments : Arguments) (check : String) : Bool :=
  match arguments.checks with
  | none => true
  | some checks => (Text.pieces (· == ',') checks).any fun name => Text.trim name == check.toList

/-- Options that take a value. -/
inductive Setting where
  | workspace | output | threshold | checks | ignore | config
  deriving DecidableEq, Repr

/-- Options without a value. -/
inductive Flag where
  | failOnWarnings | watch | preserveWatchOutput | emitNormalized | timings | verbose
  deriving DecidableEq, Repr

/-- What a name after dashes stands for. -/
inductive Name where
  | setting (setting : Setting)
  | flag (flag : Flag)
  | help
  | version
  deriving DecidableEq, Repr

/-- The names after two dashes. -/
def longNames : List (String × Name) :=
  [("workspace", .setting .workspace), ("output", .setting .output),
    ("threshold", .setting .threshold), ("checks", .setting .checks),
    ("ignore", .setting .ignore), ("config", .setting .config),
    ("fail-on-warnings", .flag .failOnWarnings), ("watch", .flag .watch),
    ("preserveWatchOutput", .flag .preserveWatchOutput),
    ("emit-normalized", .flag .emitNormalized), ("timings", .flag .timings),
    ("verbose", .flag .verbose), ("help", .help), ("version", .version)]

/-- The letters after one dash. -/
def shortNames : List (Char × Name) := [('v', .flag .verbose), ('h', .help), ('V', .version)]

/-- The formats by name. -/
def formatNames : List (String × Format) :=
  [("human", .human), ("human-verbose", .humanVerbose), ("json", .json), ("machine", .machine)]

/-- The thresholds by name. -/
def thresholdNames : List (String × Threshold) := [("error", .error), ("warning", .warning)]

/-- A command line that is partly read: the arguments so far, the options that were given,
and an option that waits to be settled, with its value if that was read. -/
structure Progress where
  arguments : Arguments
  seen : List Name
  pending : Option (Setting × Option Text)

namespace Progress

/-- Nothing read yet. -/
def start : Progress := ⟨.default, [], none⟩

/-- Record that an option was given; all but `ignore` may be given once. -/
def mark (progress : Progress) (name : Name) : Except Refusal Progress :=
  if progress.seen.contains name && name != .setting .ignore then .error .conflict
  else .ok { progress with seen := name :: progress.seen }

/-- The arguments with the value of an option. -/
def assign (arguments : Arguments) (value : Text) : Setting → Except Refusal Arguments
  | .workspace => .ok { arguments with workspace := value }
  | .checks => .ok { arguments with checks := some value }
  | .ignore => .ok { arguments with ignore := arguments.ignore ++ [value] }
  | .config => .ok { arguments with config := some value }
  | .output =>
    match formatNames.lookup (String.ofList value) with
    | some output => .ok { arguments with output }
    | none => .error .invalidValue
  | .threshold =>
    match thresholdNames.lookup (String.ofList value) with
    | some threshold => .ok { arguments with threshold }
    | none => .error .invalidValue

/-- Give an option its value. -/
def store (progress : Progress) (setting : Setting) (value : Text) : Except Refusal Progress := do
  let progress ← progress.mark (.setting setting)
  return { progress with arguments := ← assign progress.arguments value setting }

/-- Settle the option that waits. -/
def settle (progress : Progress) : Except Refusal Progress :=
  match progress.pending with
  | none => .ok progress
  | some (_, none) => .error .invalidValue
  | some (setting, some value) => { progress with pending := none }.store setting value

/-- The arguments with a flag. -/
def raise (arguments : Arguments) : Flag → Arguments
  | .failOnWarnings => { arguments with failOnWarnings := true }
  | .watch => { arguments with watch := true }
  | .preserveWatchOutput => { arguments with preserveWatchOutput := true }
  | .emitNormalized => { arguments with emitNormalized := true }
  | .timings => { arguments with timings := true }
  | .verbose => { arguments with verbose := true }

/-- A name without a value. -/
def plain (progress : Progress) (name : Name) : Except Refusal Progress := do
  let progress ← progress.settle
  match name with
  | .setting setting => return { progress with pending := some (setting, none) }
  | .flag flag =>
    let progress ← progress.mark name
    return { progress with arguments := raise progress.arguments flag }
  | .help => throw .help
  | .version => throw .version

/-- A name with a value after `=`. -/
def withValue (progress : Progress) (name : Name) (value : Text) : Except Refusal Progress := do
  match name with
  | .setting setting => (← progress.settle).store setting value
  | _ => throw .tooManyValues

/-- A word after two dashes. -/
def long (progress : Progress) (word : Text) : Except Refusal Progress :=
  match Text.cut? ['='] word with
  | some (name, value) =>
    match longNames.lookup (String.ofList name) with
    | some name => progress.withValue name value
    | none => .error .unknownArgument
  | none =>
    match longNames.lookup (String.ofList word) with
    | some name => progress.plain name
    | none => .error .unknownArgument

/-- Letters after one dash. -/
def short (progress : Progress) : Text → Except Refusal Progress
  | [] => .ok progress
  | letter :: more =>
    match shortNames.lookup letter with
    | some name => do (← progress.plain name).short more
    | none => .error .unknownArgument

/-- A word without dashes is the value of the option that waits for one. -/
def bare (progress : Progress) (word : Text) : Except Refusal Progress :=
  match progress.pending with
  | some (setting, none) => .ok { progress with pending := some (setting, some word) }
  | _ => .error .unknownArgument

/-- The words of a command line. After `--` there may be none. -/
def read (progress : Progress) : List Text → Except Refusal Progress
  | [] => progress.settle
  | ['-', '-'] :: rest => if rest.isEmpty then progress.settle else .error .unknownArgument
  | word :: rest => do
    let progress ←
      match word with
      | '-' :: '-' :: name => progress.long name
      | '-' :: letter :: letters => progress.short (letter :: letters)
      | _ => progress.bare word
    progress.read rest

end Progress

/-- The arguments that a command line stands for. -/
def ofWords (words : List Text) : Except Refusal Arguments :=
  (Progress.start.read words).map Progress.arguments

end Arguments

end StyleAudit
