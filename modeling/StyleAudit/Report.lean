import StyleAudit.Diagnostic
import StyleAudit.Json.Value
import StyleAudit.Source.Line

/-!
# Reports

- `Entry`: a diagnostic with the file it is about and its lines and columns.
- `Entry.machineLine`, `Entry.humanBlock`, `Entry.toJson`: an entry in each format. With the
  text of its line, a block for people shows the line and a caret below it.
- `Summary`: the counts of a run, its last lines, and whether it failed.
-/

namespace StyleAudit

/-- The formats of reports. -/
inductive Format where
  | human | humanVerbose | json | machine
  deriving DecidableEq, Repr

/-- A number in a report. -/
def Text.ofNat (n : Nat) : Text := Nat.toDigits 10 n

/-! ## Entries -/

/-- A place in a file: line and column from 1 on, and the byte offset. -/
structure Place where
  line : Nat
  column : Nat
  offset : Nat
  deriving DecidableEq, Repr

/-- The place of an offset with a given position. -/
def Place.ofPosition (position : Position) (offset : UInt32) : Place :=
  ⟨position.line + 1, position.column + 1, offset.toNat⟩

/-- A diagnostic of a file. -/
structure Entry where
  path : Text
  severity : Severity
  start : Place
  stop : Place
  message : Text
  code : Code
  deriving DecidableEq, Repr

/-- The word for a severity. -/
def Severity.label : Severity → Text
  | .error => "Error".toList
  | .warning => "Warning".toList

/-- The capitals for a severity. -/
def Severity.capitals : Severity → Text
  | .error => "ERROR".toList
  | .warning => "WARNING".toList

namespace Entry

/-- The entry of a diagnostic. An offset past the end of the source counts as the start of
the source, or of the diagnostic. -/
def ofDiagnostic (path : Text) (index : LineIndex) (diagnostic : Diagnostic) : Entry :=
  let start := (index.position? diagnostic.span.start).getD ⟨0, 0⟩
  let stop := (index.position? diagnostic.span.stop).getD start
  { path
    severity := diagnostic.severity
    start := .ofPosition start diagnostic.span.start
    stop := .ofPosition stop diagnostic.span.stop
    message := diagnostic.message
    code := diagnostic.code }

/-- The entries of a file's diagnostics. -/
def ofDiagnostics (path source : Text) (diagnostics : List Diagnostic) : List Entry :=
  diagnostics.map (ofDiagnostic path (LineIndex.ofText source))

/-- The message with its code. -/
def remark (entry : Entry) : Text := entry.message ++ " (".toList ++ entry.code.name ++ ")".toList

/-- An entry as one line for programs. -/
def machineLine (entry : Entry) : Text :=
  entry.severity.capitals ++ " ".toList ++ entry.path ++
    [entry.start.line, entry.start.column, entry.stop.line, entry.stop.column].flatMap
      (fun n => ':' :: Text.ofNat n) ++
    " ".toList ++ entry.remark ++ "\n".toList

/-- How many characters stand before a column of a line; bytes are counted where a
character is cut or the line is too short. -/
def caretIndent (line : Text) (column : Nat) : Nat := ((line.takeBytes? column).map List.length).getD column

/-- A line of source with its number, and a caret below one of its columns. -/
def excerpt (number column : Nat) (line : Text) : Text :=
  let label := Text.ofNat number
  "  ".toList ++ label ++ " | ".toList ++ line ++ "\n".toList ++
    "  ".toList ++ List.replicate label.length ' ' ++ " | ".toList ++
    List.replicate (caretIndent line column) ' ' ++ "^\n".toList

/-- An entry as a block for people, with the text of its line if there is one. -/
def humanBlock (line? : Option Text) (entry : Entry) : Text :=
  entry.path ++ ":".toList ++ Text.ofNat entry.start.line ++ ":".toList ++
    Text.ofNat entry.start.column ++ "\n".toList ++ entry.severity.label ++ ": ".toList ++
    entry.remark ++ "\n".toList ++
    (match line? with
      | some line => excerpt entry.start.line (entry.start.column - 1) line
      | none => []) ++
    "\n".toList

/-- A place as JSON. -/
def placeJson (place : Place) : Json.Value :=
  .object [("line", .number place.line), ("column", .number place.column),
    ("offset", .number place.offset)]

/-- An entry as JSON. -/
def toJson (entry : Entry) : Json.Value :=
  .object [("type", .text entry.severity.label), ("filename", .text entry.path),
    ("start", placeJson entry.start), ("end", placeJson entry.stop),
    ("message", .text entry.message), ("code", .text entry.code.name)]

end Entry

/-! ## Files -/

/-- The text of a file's entries, without excerpts. -/
def humanText (entries : List Entry) : Text := entries.flatMap (Entry.humanBlock none)

/-- The text of a file's entries, each with its line of the source. -/
def humanVerboseText (source : Text) (entries : List Entry) : Text :=
  let index := LineIndex.ofText source
  entries.flatMap fun entry =>
    entry.humanBlock ((index.line? (entry.start.line - 1) source).map Line.text)

/-- The lines of a file's entries. -/
def machineText (entries : List Entry) : Text := entries.flatMap Entry.machineLine

/-- What a file adds to the output of a run as soon as it is reached; JSON is written at
the end. -/
def fileText (source : Text) (entries : List Entry) : Format → Text
  | .human => humanText entries
  | .humanVerbose => humanVerboseText source entries
  | .machine => machineText entries
  | .json => []

/-! ## Summaries -/

/-- The counts of a run. -/
structure Summary where
  files : Nat
  errors : Nat
  warnings : Nat
  failOnWarnings : Bool
  deriving DecidableEq, Repr

namespace Summary

/-- Whether a run failed. -/
def failed (summary : Summary) : Bool :=
  decide (0 < summary.errors) || (decide (0 < summary.warnings) && summary.failOnWarnings)

/-- A count with its noun. -/
def counted (count : Nat) (noun : String) : Text :=
  Text.ofNat count ++ " ".toList ++ noun.toList ++ (if count = 1 then [] else ['s'])

/-- The last lines of a run. -/
def text (summary : Summary) : Text :=
  "====================================\ncountess found ".toList ++
    counted summary.errors "error" ++ " and ".toList ++ counted summary.warnings "warning" ++
    " in ".toList ++ counted summary.files "file"

end Summary

end StyleAudit
