import StyleAudit.Path

/-!
# File trees

- `FileTree`: files and folders.
- `FileTree.find`: what a path leads to, or why it leads nowhere. A path is followed step by
  step, so each step but the last has to be a folder, and so does the last one if a slash or
  a dot follows it.
- `FileTree.write`, `FileTree.delete`: changed trees.
- `FileTree.files`: the files below a folder, by name.
-/

namespace StyleAudit

/-- A file with its text, or none if its bytes are no text; or a folder, whose entries are in
the order of their names. -/
inductive FileTree where
  | file (text : Option Text)
  | folder (entries : List (Text × FileTree))

/-- Why a file cannot be read. -/
inductive ReadFault where
  | missing
  | notFolder
  | isFolder
  | notText
  | badName
  | nameTooLong
  | other (message : Text)
  deriving DecidableEq, Repr

/-- The wording of a fault. -/
def ReadFault.message : ReadFault → Text
  | missing => "No such file or directory (os error 2)".toList
  | notFolder => "Not a directory (os error 20)".toList
  | isFolder => "Is a directory (os error 21)".toList
  | notText => "stream did not contain valid UTF-8".toList
  | badName => "file name contained an unexpected NUL byte".toList
  | nameTooLong => "File name too long (os error 36)".toList
  | other message => message

namespace FileTree

/-- A folder without entries. -/
def empty : FileTree := folder []

/-- The entries of a folder; a file has none. -/
def entries : FileTree → List (Text × FileTree)
  | file _ => []
  | folder entries => entries

/-- Whether a tree is a folder. -/
def isFolder : FileTree → Bool
  | file _ => false
  | folder _ => true

/-! ## Looking up -/

/-- The number of bytes that a name may have. -/
def nameLimit : Nat := 255

/-- The number of bytes that a path may have. -/
def pathLimit : Nat := 4095

/-- Follow steps from a tree; `above` are the folders above it, innermost first. -/
def follow (above : List FileTree) (here : FileTree) : List Text → Except ReadFault FileTree
  | [] => .ok here
  | step :: rest =>
    match here with
    | file _ => .error .notFolder
    | folder entries =>
      if step.isEmpty || step == ['.'] then follow above here rest
      else if step == ['.', '.'] then
        match above with
        | parent :: further => follow further parent rest
        | [] => follow [] here rest
      else
        match entries.lookup step with
        | some found => follow (here :: above) found rest
        | none => .error (if Text.bytes step > nameLimit then .nameTooLong else .missing)

/-- What an absolute path leads to. -/
def find (tree : FileTree) (path : Text) : Except ReadFault FileTree :=
  if path.isEmpty then .error .missing
  else if List.contains path '\x00' then .error .badName
  else if Text.bytes path > pathLimit then .error .nameTooLong
  else follow [] tree (Path.steps path)

/-- The text of a file. -/
def read (tree : FileTree) (path : Text) : Except ReadFault Text :=
  match tree.find path with
  | .error fault => .error fault
  | .ok (folder _) => .error .isFolder
  | .ok (file none) => .error .notText
  | .ok (file (some text)) => .ok text

/-- Whether a path leads somewhere. -/
def has (tree : FileTree) (path : Text) : Bool := (tree.find path).toOption.isSome

/-! ## Changing -/

/-- The names on a path. -/
def names (path : Text) : List Text :=
  (Path.steps path).filter fun step => !step.isEmpty && step != ['.']

/-- The order of names by their characters, which is that of their bytes. -/
def comesBefore : Text → Text → Bool
  | [], _ => true
  | _ :: _, [] => false
  | a :: as, b :: bs => if a = b then comesBefore as bs else decide (a < b)

/-- Set an entry of a folder. -/
def setEntry (name : Text) (tree : FileTree) : List (Text × FileTree) → List (Text × FileTree)
  | [] => [(name, tree)]
  | (other, old) :: rest =>
    if other = name then (name, tree) :: rest
    else if comesBefore name other then (name, tree) :: (other, old) :: rest
    else (other, old) :: setEntry name tree rest

/-- A tree with something at the end of names; folders on the way are made. -/
def put (content : FileTree) : FileTree → List Text → FileTree
  | _, [] => content
  | tree, name :: rest =>
    let inner := (tree.entries.lookup name).getD empty
    folder (setEntry name (put content inner rest) tree.entries)

/-- A tree with a file at a path. -/
def write (tree : FileTree) (path : Text) (text : Option Text) : FileTree :=
  put (file text) tree (names path)

/-- A tree without what is at the end of names. -/
def remove : FileTree → List Text → FileTree
  | tree, [] => tree
  | tree, [name] => folder (tree.entries.filter fun entry => entry.1 != name)
  | tree, name :: rest =>
    match tree.entries.lookup name with
    | some inner => folder (setEntry name (remove inner rest) tree.entries)
    | none => tree

/-- A tree without what is at a path. -/
def delete (tree : FileTree) (path : Text) : FileTree := tree.remove (names path)

/-! ## Files below a folder -/

mutual

/-- The paths of the files of a tree, seen from it; `path` leads to it. -/
def filesAt (path : Text) : FileTree → List Text
  | file _ => [path]
  | folder entries => filesIn path entries

/-- The paths of the files of entries, in their order; `path` leads to their folder. -/
def filesIn (path : Text) : List (Text × FileTree) → List Text
  | [] => []
  | (name, tree) :: rest => filesAt (Path.join path name) tree ++ filesIn path rest

end

/-- The paths of the files below a path, seen from it, in the order of their names. A file is
its own only file, and a path that leads nowhere has none. -/
def files (tree : FileTree) (path : Text) : List Text :=
  match tree.find path with
  | .ok found => filesAt [] found
  | .error _ => []

end FileTree

end StyleAudit
