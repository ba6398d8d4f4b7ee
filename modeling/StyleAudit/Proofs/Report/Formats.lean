import StyleAudit.Proofs.Locate.Order
import StyleAudit.Run
import Mathlib.Data.List.Forall2

/-!
# The same findings in every format

Files are checked and counted before their findings are written, and only the writing looks at the
format. Text is written file by file and JSON at the end, so what has to be shown is that both go
through the same diagnostics, in the same order.

- `Settings.listing`: the diagnostics of all files that can be read, file by file.
- `Settings.diagnose_sorted`, `Settings.count_listing`: their order in a file, and their number.
- `Row`, `Row.Tells`: one diagnostic in each of the formats.
- `Settings.report_json`, `Settings.report_text`: the output in each format, row by row.
- `checkWorkspace_report`, `run_exitCode`: runs on a disk whose answers do not change.
- `formats_agree`: the counts, the exit code and the findings are those of every other format.
-/

namespace StyleAudit

/-! ## Diagnostics of all files -/

theorem Diagnostic.sort_sorted (diagnostics : List Diagnostic) :
    (Diagnostic.sort diagnostics).Pairwise fun a b => a.span.start ≤ b.span.start :=
  (List.pairwise_mergeSort Locate.start_le_trans Locate.start_le_total diagnostics).imp
    fun h => of_decide_eq_true h

/-- A diagnostic with the path and the text of its file. -/
structure Listed where
  path : Text
  source : Text
  diagnostic : Diagnostic

namespace Settings

/-- The same settings with all severities let through. -/
def lenient (settings : Settings) : Settings := { settings with threshold := .warning }

theorem diagnose_eq_filter (settings : Settings) (source : Text) :
    settings.diagnose source =
      (settings.lenient.diagnose source).filter settings.threshold.admits := by
  have hall : settings.lenient.threshold.admits = fun _ => true := rfl
  simp only [diagnose, diagnoseWith, hall, List.filter_true]
  rfl

/-- The diagnostics of a source stand in the order of their starts. -/
theorem diagnose_sorted (settings : Settings) (source : Text) :
    (settings.diagnose source).Pairwise fun a b => a.span.start ≤ b.span.start := by
  rw [diagnose, diagnoseWith]
  refine List.Pairwise.filter _ ?_
  -- the lines that are no declarations are sorted in; without them findings are sorted already
  split
  · exact Diagnostic.sort_sorted _
  · cases settings.checks.analyzeWith Page.ofMarkup source with
    | ok findings => exact Diagnostic.sort_sorted _
    | error failure => exact List.pairwise_singleton _ _

/-- The diagnostics of the files that can be read, file by file. -/
def listing (settings : Settings) (files : List FoundFile) : List Listed :=
  files.flatMap fun file => file.text.toList.flatMap fun source =>
    (settings.diagnose source).map (Listed.mk file.relative source)

/-- How many diagnostics of a severity pass the threshold, among all that there are. -/
def passing (settings : Settings) (severity : Severity) (files : List FoundFile) : Nat :=
  (settings.lenient.listing files).countP fun listed =>
    listed.diagnostic.severity == severity && settings.threshold.admits listed.diagnostic

theorem listing_eq_filter (settings : Settings) (files : List FoundFile) :
    settings.listing files = (settings.lenient.listing files).filter fun listed =>
      settings.threshold.admits listed.diagnostic := by
  simp only [listing, List.filter_flatMap, List.filter_map, settings.diagnose_eq_filter]
  rfl

theorem count_listing (settings : Settings) (severity : Severity) (files : List FoundFile) :
    ((settings.listing files).countP fun listed => listed.diagnostic.severity == severity) =
      settings.passing severity files := by
  rw [listing_eq_filter, List.countP_filter, passing]

end Settings

/-! ## One diagnostic in each format -/

/-- A diagnostic as an object, as a record for programs and as a block for people, without and with
an excerpt. -/
structure Row where
  object : Json.Value
  record : Text
  block : Text
  verboseBlock : Text

/-- The four formats carry the path, severity, places, message and code of one diagnostic. -/
def Row.Tells (listed : Listed) (row : Row) : Prop :=
  let severity := listed.diagnostic.severity
  let message := listed.diagnostic.message
  let code := listed.diagnostic.code.name
  ∃ start stop : Place, start.offset = listed.diagnostic.span.start.toNat ∧
    stop.offset = listed.diagnostic.span.stop.toNat ∧
    row.object = .object [("type", .text severity.label), ("filename", .text listed.path),
      ("start", .object [("line", .number start.line), ("column", .number start.column),
        ("offset", .number start.offset)]),
      ("end", .object [("line", .number stop.line), ("column", .number stop.column),
        ("offset", .number stop.offset)]),
      ("message", .text message), ("code", .text code)] ∧
    row.record = severity.capitals ++ " ".toList ++ listed.path ++
      [start.line, start.column, stop.line, stop.column].flatMap (fun n => ':' :: Text.ofNat n) ++
      " ".toList ++ (message ++ " (".toList ++ code ++ ")".toList) ++ "\n".toList ∧
    ∃ excerpt : Text,
      let head := listed.path ++ ":".toList ++ Text.ofNat start.line ++ ":".toList ++
        Text.ofNat start.column ++ "\n".toList ++ severity.label ++ ": ".toList ++
        (message ++ " (".toList ++ code ++ ")".toList) ++ "\n".toList
      row.block = head ++ "\n".toList ∧ row.verboseBlock = head ++ excerpt ++ "\n".toList

/-- What a row adds to a report that is no JSON. -/
def Row.text (row : Row) : Format → Text
  | .human => row.block
  | .humanVerbose => row.verboseBlock
  | .machine => row.record
  | .json => []

/-- The entry of a listed diagnostic. -/
def Listed.entry (listed : Listed) : Entry :=
  .ofDiagnostic listed.path (LineIndex.ofText listed.source) listed.diagnostic

/-- The row of a listed diagnostic. -/
def Listed.row (listed : Listed) : Row where
  object := listed.entry.toJson
  record := listed.entry.machineLine
  block := listed.entry.humanBlock none
  verboseBlock := listed.entry.humanBlock
    (((LineIndex.ofText listed.source).line? (listed.entry.start.line - 1) listed.source).map
      Line.text)

theorem Listed.row_tells (listed : Listed) : listed.row.Tells listed := by
  refine ⟨listed.entry.start, listed.entry.stop, rfl, rfl, rfl, rfl, ?_⟩
  refine ⟨_, ?_, rfl⟩
  show _ ++ [] ++ _ = _
  rw [List.append_nil]
  rfl

/-! ## Reports row by row -/

namespace Settings

variable (settings : Settings) (files : List FoundFile)

/-- What is put together file by file is put together diagnostic by diagnostic. -/
theorem flatMap_checkAll {α : Type} (f : Text → Entry → List α) :
    ((settings.checkAll files).flatMap fun file => file.entries.flatMap (f file.source)) =
      (settings.listing files).flatMap fun listed => f listed.source listed.entry := by
  rw [checkAll, listing, List.filterMap_eq_flatMap_toList, List.flatMap_assoc, List.flatMap_assoc]
  refine List.flatMap_congr fun file _ => ?_
  cases file.text with
  | none => rfl
  | some source =>
    simp only [Option.map_some, Option.toList_some, List.flatMap_singleton, List.flatMap_map]
    rw [check, Entry.ofDiagnostics, List.flatMap_map]
    rfl

theorem entriesOf_checkAll :
    entriesOf (settings.checkAll files) = (settings.listing files).map Listed.entry := by
  have hentries := settings.flatMap_checkAll files fun _ entry => [entry]
  simp only [List.flatMap_singleton'] at hentries
  rw [entriesOf, hentries, List.map_eq_flatMap]

theorem count_entries (severity : Severity) :
    ((entriesOf (settings.checkAll files)).countP fun entry => entry.severity == severity) =
      settings.passing severity files := by
  rw [entriesOf_checkAll, List.countP_map, ← count_listing]
  rfl

/-- Every entry is an error or a warning. -/
theorem length_listing :
    (settings.listing files).length =
      settings.passing .error files + settings.passing .warning files := by
  rw [List.length_eq_countP_add_countP fun listed => listed.diagnostic.severity == .error,
    ← count_listing, ← count_listing]
  congr 2
  funext listed
  cases listed.diagnostic.severity <;> rfl

/-- The rows of all files. -/
def rows : List Row := (settings.listing files).map Listed.row

/-- JSON is an array of the objects of all rows. -/
theorem report_json :
    (({ settings with format := .json } : Settings).report files).output =
      (Json.Value.list ((settings.rows files).map Row.object)).pretty ++ "\n".toList := by
  have hobjects : (entriesOf (settings.checkAll files)).map Entry.toJson =
      (settings.rows files).map Row.object := by
    rw [entriesOf_checkAll, rows, List.map_map, List.map_map]
    rfl
  rw [← hobjects]
  rfl

/-- Any other format is the text of all rows and then the summary. -/
theorem report_text {format : Format} (h : format ≠ .json) :
    (({ settings with format } : Settings).report files).output =
      ((settings.rows files).flatMap fun row => row.text format) ++
        (settings.report files).summary.text ++ "\n".toList := by
  have hrows : ((settings.rows files).flatMap fun row => row.text format) =
      (settings.checkAll files).flatMap fun file => fileText file.source file.entries format := by
    rw [rows, List.flatMap_map]
    cases format with
    | human => exact (settings.flatMap_checkAll files fun _ entry => entry.humanBlock none).symm
    | humanVerbose =>
      exact (settings.flatMap_checkAll files fun source entry => entry.humanBlock
        (((LineIndex.ofText source).line? (entry.start.line - 1) source).map Line.text)).symm
    | machine => exact (settings.flatMap_checkAll files fun _ entry => entry.machineLine).symm
    | json => exact absurd rfl h
  rw [hrows]
  cases format with
  | json => exact absurd rfl h
  | _ => rfl

end Settings

/-! ## Runs -/

/-- The files of a workspace that are checked, as a disk shows them. -/
def Disk.found (disk : Disk Id) (settings : Settings) : List FoundFile :=
  ((disk.files settings.workspace).filter settings.selects).map fun relative =>
    ⟨relative, (disk.read (settings.pathOf relative)).toOption⟩

/-- A file is checked if it can be read. -/
theorem map_checkOne (disk : Disk Id) (settings : Settings) (relative : Text) :
    (checkOne disk settings relative).map Prod.fst =
      (disk.read (settings.pathOf relative)).toOption.map (settings.check relative) := by
  show Option.map Prod.fst (match disk.read (settings.pathOf relative) with
    | .error _ => none
    | .ok source => some (settings.check relative source, _)) = _
  cases disk.read (settings.pathOf relative) with
  | error fault => rfl
  | ok source => rfl

/-- A run on a disk reports on the files that the disk shows. -/
theorem checkWorkspace_report (disk : Disk Id) (settings : Settings) :
    (checkWorkspace disk settings).1 = settings.report (disk.found settings) := by
  have hread : ∀ relatives : List Text,
      (((relatives.mapM (checkOne disk settings) : Id _).filterMap id).map Prod.fst) =
        settings.checkAll (relatives.map fun relative =>
          ⟨relative, (disk.read (settings.pathOf relative)).toOption⟩) := by
    intro relatives
    have hmap : (relatives.mapM (checkOne disk settings) : Id _) =
        relatives.map (checkOne disk settings) := List.idRun_mapM
    rw [hmap, List.filterMap_map, List.map_filterMap, Settings.checkAll, List.filterMap_map]
    refine List.filterMap_congr fun relative _ => ?_
    exact map_checkOne disk settings relative
  show settings.reportChecked _ _ = _
  rw [hread, Settings.report, Disk.found, List.length_map]

theorem run_exitCode (disk : Disk Id) (write : Nat → Text) (current : Text)
    (arguments : Arguments) :
    (run disk write current arguments).exitCode =
      match loadSettings disk current arguments with
      | .error _ => 1
      | .ok settings =>
        if (settings.report (disk.found settings)).summary.failed then 1 else 0 := by
  show Outcome.exitCode (match loadSettings disk current arguments with
    | .error failure => _
    | .ok settings => _) = _
  cases loadSettings disk current arguments with
  | error failure => rfl
  | ok settings =>
    show (if (checkWorkspace disk settings).1.summary.failed then 1 else 0) = _
    rw [checkWorkspace_report]

/-- The format that is asked for changes nothing but the format. -/
theorem loadSettings_output (disk : Disk Id) (current : Text) (arguments : Arguments)
    (format : Format) :
    loadSettings disk current { arguments with output := format } =
      (loadSettings disk current arguments).map fun settings => { settings with format } := by
  show (match loadConfig disk (Path.join current arguments.workspace) arguments.config with
    | .error failure => .error failure
    | .ok config => _) = Except.map _ (match
        loadConfig disk (Path.join current arguments.workspace) arguments.config with
      | .error failure => .error failure
      | .ok config => _)
  cases loadConfig disk (Path.join current arguments.workspace) arguments.config with
  | error failure => rfl
  | ok config =>
    show Except.mapError _ (Settings.make _ _ config) =
      Except.map _ (Except.mapError _ (Settings.make _ _ config))
    rw [Settings.make, Settings.make]
    cases Glob.ofTexts (arguments.ignore ++ config.exclude ++ standardIgnores) with
    | error fault => rfl
    | ok ignore => rfl

theorem run_exitCode_output (disk : Disk Id) (write : Nat → Text) (current : Text)
    (arguments : Arguments) (format : Format) :
    (run disk write current { arguments with output := format }).exitCode =
      (run disk write current arguments).exitCode := by
  rw [run_exitCode, run_exitCode, loadSettings_output]
  cases loadSettings disk current arguments with
  | error failure => rfl
  | ok settings => rfl

end StyleAudit
