import StyleAudit.Analysis
import StyleAudit.Arguments
import StyleAudit.Config
import StyleAudit.Glob.Set
import StyleAudit.Locate.DeclarationLine
import StyleAudit.Path

/-!
# Checking files

- `Settings`: how files are chosen and checked, from arguments and configuration.
- `Settings.selects`: which files are checked.
- `Settings.diagnose`: the diagnostics of one source.
- `Settings.summary`, `Settings.entries`, `Settings.report`: what is said about all files.
-/

namespace StyleAudit

/-- How files are chosen and checked. -/
structure Settings where
  workspace : Text
  checks : Checks
  /-- Whether lines inside rules have to be declarations. -/
  checksLines : Bool
  threshold : Threshold
  format : Format
  /-- The endings of the names of checked files. -/
  suffixes : List Text
  /-- Files that are skipped. -/
  ignore : List Glob
  emitNormalized : Bool
  failOnWarnings : Bool

/-- Patterns of paths that are always skipped. -/
def standardIgnores : List Text :=
  ["**/node_modules/**".toList, "**/bower_components/**".toList]

namespace Settings

/-- The settings for a workspace. -/
def make (workspace : Text) (arguments : Arguments) (config : Config) : Except GlobError Settings :=
  (Glob.ofTexts (arguments.ignore ++ config.exclude ++ standardIgnores)).map fun ignore =>
    let checks : Checks := ⟨arguments.includes "unused", arguments.includes "overwritten", .standard⟩
    { workspace
      checks := checks.withExtra config.extraPseudoClasses
      checksLines := arguments.includes "syntax"
      threshold := arguments.threshold
      format := arguments.output
      suffixes := config.suffixes
      ignore
      emitNormalized := arguments.emitNormalized
      failOnWarnings := arguments.failOnWarnings || config.failOnWarnings.getD false }

/-- The path of a file from its path below the workspace. -/
def pathOf (settings : Settings) (relative : Text) : Text :=
  if relative.isEmpty then settings.workspace else Path.join settings.workspace relative

/-- Whether a file is checked: by the ending of its name and the ignored patterns. -/
def selects (settings : Settings) (relative : Text) : Bool :=
  (settings.suffixes.any fun suffix =>
      Text.endsWith suffix (Path.fileName (settings.pathOf relative))) &&
    !settings.ignore.any fun glob => glob.accepts relative

end Settings

/-! ## One file -/

/-- Whether a diagnostic is grave enough. -/
def Threshold.admits (threshold : Threshold) (diagnostic : Diagnostic) : Bool :=
  match threshold with
  | .error => diagnostic.severity == .error
  | .warning => true

/-- The diagnostics of a source, for any way to read pages. -/
def Settings.diagnoseWith (read : PageReader) (settings : Settings) (source : Text) : List Diagnostic :=
  let found := Locate.outcomeDiagnostics source (settings.checks.analyzeWith read source)
  let all :=
    if settings.checksLines then Diagnostic.sort (found ++ Locate.lineDiagnostics source) else found
  all.filter settings.threshold.admits

/-- The diagnostics of a source. -/
def Settings.diagnose (settings : Settings) (source : Text) : List Diagnostic :=
  settings.diagnoseWith Page.ofMarkup source

/-- A file that was found: its path below the workspace, and its text if it can be read. -/
structure FoundFile where
  relative : Text
  text : Option Text

/-- A file that was read, and its entries. -/
structure CheckedFile where
  relative : Text
  source : Text
  entries : List Entry

/-- Check a file. -/
def Settings.check (settings : Settings) (relative source : Text) : CheckedFile :=
  ⟨relative, source, Entry.ofDiagnostics relative source (settings.diagnose source)⟩

/-- The normalised markup of a file, or why there is none, under a heading. -/
def CheckedFile.normalized (file : CheckedFile) : Text :=
  "=== normalized ".toList ++ file.relative ++ " ===\n".toList ++
    (match Template.normalize file.source with
      | .ok markup => markup
      | .error cause => cause.message) ++
    "\n".toList

/-! ## All files -/

/-- What a check has to say: its output, what it shows besides, and its counts. -/
structure CheckReport where
  output : Text
  aside : Text
  summary : Summary

namespace Settings

/-- Check the files that can be read. -/
def checkAll (settings : Settings) (files : List FoundFile) : List CheckedFile :=
  files.filterMap fun file => file.text.map (settings.check file.relative)

/-- The entries of all files. -/
def entriesOf (checked : List CheckedFile) : List Entry := checked.flatMap CheckedFile.entries

/-- The counts of a check of `count` files. -/
def summarize (settings : Settings) (count : Nat) (checked : List CheckedFile) : Summary where
  files := count
  errors := (entriesOf checked).countP fun entry => entry.severity == .error
  warnings := (entriesOf checked).countP fun entry => entry.severity == .warning
  failOnWarnings := settings.failOnWarnings

/-- The output of a check. -/
def render (settings : Settings) (summary : Summary) (checked : List CheckedFile) : Text :=
  match settings.format with
  | .json => (Json.Value.list ((entriesOf checked).map Entry.toJson)).pretty ++ "\n".toList
  | format =>
    (checked.flatMap fun file => fileText file.source file.entries format) ++ summary.text ++
      "\n".toList

/-- The report on checked files; `count` files were found. -/
def reportChecked (settings : Settings) (count : Nat) (checked : List CheckedFile) : CheckReport :=
  let summary := settings.summarize count checked
  { output := settings.render summary checked
    aside := if settings.emitNormalized then checked.flatMap CheckedFile.normalized else []
    summary }

/-- The report on files. -/
def report (settings : Settings) (files : List FoundFile) : CheckReport :=
  settings.reportChecked files.length (settings.checkAll files)

end Settings

end StyleAudit
