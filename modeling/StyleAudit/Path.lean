import StyleAudit.Text.Blank

/-!
# Paths

- `Path.join`: a path seen from another one, as it is written: nothing is cleaned up.
- `Path.fileName`: the name that a path ends in.
-/

namespace StyleAudit.Path

/-- Whether a path starts at the root. -/
def isAbsolute (path : Text) : Bool := path.head? == some '/'

/-- A path seen from a base. An absolute path stays as it is. -/
def join (base path : Text) : Text :=
  if isAbsolute path || base.isEmpty then path
  else if base.getLast? == some '/' then base ++ path
  else base ++ '/' :: path

/-- The steps of a path. -/
def steps (path : Text) : List Text := Text.pieces (· == '/') path

/-- The name that a path ends in, slashes and dots at the end aside; empty if it ends in a
step to the parent or has no steps. -/
def fileName (path : Text) : Text :=
  let names := (steps path).filter fun step => !step.isEmpty && step != ['.']
  match names.getLast? with
  | some name => if name == ['.', '.'] then [] else name
  | none => []

end StyleAudit.Path
