import StyleAudit.Config.Comments
import StyleAudit.Json.Reader
import StyleAudit.Text.Blank

/-!
# Configuration

- `Config`: which files are analysed, and how.
- `Config.ofText`: the configuration that a text describes. It is an object of fields, or a
  list of their values in the order in which they are declared; missing ones are defaulted.
- `Config.suffixes`: the endings of the names of analysed files.
-/

namespace StyleAudit

/-- A project's configuration. -/
structure Config where
  /-- Endings of the names of analysed files. -/
  extensions : List Text
  /-- Patterns of paths that are skipped. -/
  exclude : List Text
  /-- Pseudo-classes that are stripped besides the standard ones. -/
  extraPseudoClasses : List Text
  /-- Whether warnings fail a run; none if the configuration does not say. -/
  failOnWarnings : Option Bool
  deriving DecidableEq, Repr

namespace Config

/-- The configuration of a project that has none. -/
def default : Config := ⟨[], [], [], none⟩

/-- The endings of the names of analysed files. -/
def suffixes (config : Config) : List Text :=
  if config.extensions.isEmpty then [".html".toList] else config.extensions

/-- The fields of a configuration, in order. -/
inductive Field where
  | extensions | exclude | extraPseudoClasses | failOnWarnings
  deriving DecidableEq, Repr

namespace Field

/-- All fields. -/
def all : List Field := [extensions, exclude, extraPseudoClasses, failOnWarnings]

/-- The key of a field. -/
def key : Field → String
  | extensions => "extensions"
  | exclude => "exclude"
  | extraPseudoClasses => "extraPseudoClasses"
  | failOnWarnings => "failOnWarnings"

/-- The field of a key. -/
def ofKey? (key : Text) : Option Field := all.find? fun field => field.key.toList == key

/-- Read the value of a field. -/
def read (config : Config) : Field → Json.Read Config
  | extensions => return { config with extensions := ← Json.readStrings }
  | exclude => return { config with exclude := ← Json.readStrings }
  | extraPseudoClasses => return { config with extraPseudoClasses := ← Json.readStrings }
  | failOnWarnings => return { config with failOnWarnings := ← Json.readFlag? }

/-- A field in a message. -/
def shown (name : Text) : Text := "`".toList ++ name ++ "`".toList

/-- What is said of a key that no field has. -/
def unknown (key : Text) : Json.Cause :=
  .data ("unknown field ".toList ++ shown key ++ ", expected one of ".toList ++
    Text.join ", ".toList (all.map fun field => shown field.key.toList))

/-- What is said of a key that is given twice. -/
def duplicate (field : Field) : Json.Cause :=
  .data ("duplicate field ".toList ++ shown field.key.toList)

end Field

/-- Read the fields of an object; `seen` are those already read. -/
def readFields (config : Config) : Nat → List Field → Json.Read Config
  | 0, _ => return config
  | limit + 1, seen => do
    if !(← Json.hasKey seen.isEmpty) then return config
    Json.skip
    let key ← Json.readStringRest
    match Field.ofKey? key with
    | none => Json.stopAnywhere (Field.unknown key)
    | some field =>
      if seen.contains field then Json.stopAnywhere field.duplicate
      Json.readColon
      readFields (← field.read config) limit (field :: seen)

/-- Read the values of a list, one for each field. -/
def readValues (config : Config) (first : Bool) : List Field → Json.Read Config
  | [] => return config
  | field :: more => do
    if ← Json.hasItem first then readValues (← field.read config) false more
    else return config

/-- Read a configuration. -/
def read : Json.Read Config := Json.placed do
  match ← Json.startValue with
  | '\x7b' =>
    Json.skip
    Json.bracketed (readFields default (Field.all.length + 1) []) Json.endObject
  | '[' =>
    Json.skip
    Json.bracketed (readValues default true Field.all) Json.endList
  | _ => Json.wrongType "struct CountessConfig"

/-- The configuration that a text describes. -/
def ofText (text : Text) : Except Json.Fault Config := Json.readAll read (stripComments text)

end Config

end StyleAudit
