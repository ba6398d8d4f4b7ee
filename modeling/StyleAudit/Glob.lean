import StyleAudit.Text.Basic

/-!
# Path patterns

A pattern stands for a set of paths. `*` and `?` also stand for `/`; `**` between slashes
stands for whole folders. Paths are matched byte by byte.

- `Part`: the parts of a pattern; `Part.rests`: what may be left of a path behind a part.
- `Glob.ofText`: the pattern of a text, or what is wrong with it.
- `Glob.accepts`: whether a path is in the set.
-/

namespace StyleAudit

/-- A part of a pattern. -/
inductive Part where
  | char (c : Char)
  /-- Any byte: `?`. -/
  | one
  /-- Any bytes: `*`. -/
  | many
  /-- Nothing, or folders up to a slash: `**/` at the start. -/
  | leadingFolders
  /-- A slash and what follows it: `/**` at the end. -/
  | trailingFolders
  /-- A slash, or folders between two slashes: `/**/`. -/
  | betweenFolders
  /-- A byte that is, or is not, in one of the ranges. -/
  | range (negated : Bool) (ranges : List (Char × Char))
  | alternatives (branches : List (List Part))
  deriving Repr

/-- What is wrong with a pattern. -/
inductive GlobCause where
  | unclosedRange
  | reversedRange (low high : Char)
  | danglingEscape
  | unclosedGroup
  | unopenedGroup
  deriving DecidableEq, Repr

/-- The wording of a cause. -/
def GlobCause.message : GlobCause → Text
  | unclosedRange => "unclosed character class; missing ']'".toList
  | reversedRange low high =>
    "invalid range; '".toList ++ [low] ++ "' > '".toList ++ [high] ++ "'".toList
  | danglingEscape => "dangling '\\'".toList
  | unclosedGroup =>
    "unclosed alternate group; missing '\x7d' (maybe escape '\x7b' with '[\x7b]'?)".toList
  | unopenedGroup =>
    "unopened alternate group; missing '\x7b' (maybe escape '\x7d' with '[\x7d]'?)".toList

/-- Why patterns cannot be used. -/
inductive GlobError where
  /-- A pattern could not be read. -/
  | unreadable (pattern : Text) (cause : GlobCause)
  /-- An expression is nested too deeply; the expressions are counted from 0. -/
  | tooDeep (index : Nat)
  /-- An expression that is looked at by itself is nested too deeply. -/
  | tooDeepAlone (expression : Text)
  deriving DecidableEq, Repr

/-- The wording of an error. -/
def GlobError.message : GlobError → Text
  | unreadable pattern cause =>
    "error parsing glob '".toList ++ pattern ++ "': ".toList ++ cause.message
  | tooDeep index => "error parsing pattern ".toList ++ Nat.toDigits 10 index
  | tooDeepAlone expression =>
    "error parsing glob '".toList ++ expression ++ "': error parsing pattern 0".toList

/-! ## Matching -/

/-- Paths as bytes. -/
abbrev Bytes := List UInt8

/-- The bytes of a text. -/
def Text.toBytes (text : Text) : Bytes := text.flatMap String.utf8EncodeChar

/-- The byte of a slash. -/
def slash : UInt8 := 0x2F

/-- The parts of a path behind its slashes. -/
def behindSlashes : Bytes → List Bytes
  | [] => []
  | b :: bs => if b = slash then bs :: behindSlashes bs else behindSlashes bs

/-- All ends of a path. -/
def ends : Bytes → List Bytes
  | [] => [[]]
  | b :: bs => (b :: bs) :: ends bs

/-- Drop the given bytes at the start. -/
def dropBytes? : Bytes → Bytes → Option Bytes
  | [], path => some path
  | b :: bs, p :: ps => if b = p then dropBytes? bs ps else none
  | _ :: _, [] => none

/-- Whether a byte is in a range. The bytes of the first bound but its last, and those of the
second but its first, count by themselves. -/
def inRange (byte : UInt8) : Char × Char → Bool
  | (low, high) =>
    let first := String.utf8EncodeChar low
    let last := String.utf8EncodeChar high
    if low = high then first.contains byte
    else
      first.dropLast.contains byte || (last.drop 1).contains byte ||
        (decide (first.getLast?.getD 0 ≤ byte) && decide (byte ≤ last.head?.getD 0))

mutual

/-- Whether a part stands for nothing at all: a group without content. -/
def Part.isVoid : Part → Bool
  | .alternatives branches => Part.allBranchesVoid branches
  | _ => false

/-- Whether all parts stand for nothing. -/
def Part.allVoid : List Part → Bool
  | [] => true
  | part :: parts => part.isVoid && Part.allVoid parts

/-- Whether all branches stand for nothing. -/
def Part.allBranchesVoid : List (List Part) → Bool
  | [] => true
  | branch :: branches => Part.allVoid branch && Part.allBranchesVoid branches

end

mutual

/-- What may be left of a path behind a part. -/
def Part.rests : Part → Bytes → List Bytes
  | .char c, path => (dropBytes? (String.utf8EncodeChar c) path).toList
  | .one, path => if path.isEmpty then [] else [path.drop 1]
  | .many, path => ends path
  | .leadingFolders, path => path :: behindSlashes path
  | .trailingFolders, path => if path.head? = some slash then ends (path.drop 1) else []
  | .betweenFolders, path =>
    if path.head? = some slash then path.drop 1 :: behindSlashes (path.drop 1) else []
  | .range negated ranges, path =>
    match path with
    | [] => []
    | b :: bs => if ranges.any (inRange b) != negated then [bs] else []
  | .alternatives branches, path =>
    if Part.allBranchesVoid branches then [path] else Part.restsOfBranches branches path

/-- What may be left of a path behind parts. Each end of the path is listed once. -/
def Part.restsOfAll : List Part → Bytes → List Bytes
  | [], path => [path]
  | part :: parts, path =>
    ((part.rests path).eraseDups.flatMap fun rest => Part.restsOfAll parts rest).eraseDups

/-- What may be left of a path behind one of the branches. Empty branches do not count. -/
def Part.restsOfBranches : List (List Part) → Bytes → List Bytes
  | [], _ => []
  | branch :: branches, path =>
    (if Part.allVoid branch then [] else Part.restsOfAll branch path) ++
      Part.restsOfBranches branches path

end

/-- A pattern. -/
structure Glob where
  parts : List Part

namespace Glob

/-- Whether a path is in the set of a pattern. A pattern that is only `**` accepts all. -/
def accepts (glob : Glob) (path : Text) : Bool :=
  match glob.parts with
  | [.leadingFolders] => true
  | parts => (Part.restsOfAll parts path.toBytes).any List.isEmpty

/-! ## Reading -/

/-- An open group: the parts before it and its finished branches, all last first. -/
structure Group where
  before : List Part
  branches : List (List Part)

/-- A pattern that is partly read: the open groups, innermost first, the parts of the current
branch, last first, and the last character. -/
structure Reading where
  groups : List Group
  branch : List Part
  last : Option Char

/-- Add a part. -/
def Reading.add (reading : Reading) (part : Part) : Reading :=
  { reading with branch := part :: reading.branch }

/-- The ranges of a class, up to its bracket, and the rest; ranges are listed last first, and
`isOpen` says that a range waits for its second bound. -/
def readRanges : Bool → Bool → List (Char × Char) → Text → Except GlobCause (List (Char × Char) × Text)
  | _, _, _, [] => .error .unclosedRange
  | first, isOpen, ranges, c :: cs =>
    if c == ']' && !first then .ok (if isOpen then ('-', '-') :: ranges else ranges, cs)
    else if c == '-' && !first && !isOpen then readRanges false true ranges cs
    else
      match isOpen, ranges with
      | true, (low, _) :: others =>
        if c < low then .error (.reversedRange low c)
        else readRanges false false ((low, c) :: others) cs
      | _, _ => readRanges false false ((c, c) :: ranges) cs

/-- A class, its opening bracket being read. -/
def readClass (text : Text) : Except GlobCause (Part × Text) :=
  let negated := text.head? == some '!' || text.head? == some '^'
  (readRanges true false [] (if negated then text.drop 1 else text)).map
    fun (ranges, rest) => (.range negated ranges.reverse, rest)

/-- Whether two stars behind a character may stand for whole folders: behind a slash, and in
a group also behind a comma or brace that is escaped. -/
def Reading.atStep (reading : Reading) : Bool :=
  match reading.last with
  | some '/' => true
  | some ',' | some '{' => !reading.groups.isEmpty
  | _ => false

/-- Two stars; `last` is the character before them. Between slashes they stand for whole
folders, elsewhere for any bytes. -/
def readTwoStars (reading : Reading) (rest : Text) : Reading × Text :=
  let plain : Reading × Text := ((reading.add .many).add .many |> fun r => { r with last := some '*' }, rest)
  match reading.branch with
  | [] =>
    match rest with
    | [] => ({ reading.add .leadingFolders with last := some '*' }, [])
    | '/' :: rest => ({ reading.add .leadingFolders with last := some '/' }, rest)
    | _ => plain
  | previous :: before =>
    if !reading.atStep then plain
    else
      let replace (part : Part) (last : Char) : Reading :=
        let kept :=
          match previous with
          | .leadingFolders => .leadingFolders
          | .trailingFolders => .trailingFolders
          | _ => part
        { reading with branch := kept :: before, last := some last }
      match rest with
      | [] => (replace .trailingFolders '*', [])
      | '/' :: more => (replace .betweenFolders '/', more)
      | c :: _ =>
        if (c == ',' || c == '}') && !reading.groups.isEmpty then (replace .trailingFolders '*', rest)
        else plain

/-- Read a pattern; at most `limit` steps. -/
def read (limit : Nat) (reading : Reading) (text : Text) : Except GlobCause (List Part) :=
  match text with
  | [] =>
    if reading.groups.isEmpty then .ok reading.branch.reverse else .error .unclosedGroup
  | c :: cs =>
    match limit with
    | 0 => .error .unclosedGroup
    | limit + 1 =>
      let next (part : Part) : Reading := { reading.add part with last := some c }
      match c with
      | '?' => read limit (next .one) cs
      | '*' =>
        match cs with
        | '*' :: rest =>
          let (reading, rest) := readTwoStars reading rest
          read limit reading rest
        | _ => read limit (next .many) cs
      | '[' =>
        match readClass cs with
        | .ok (part, rest) => read limit { reading.add part with last := some ']' } rest
        | .error cause => .error cause
      | '{' => read limit ⟨⟨reading.branch, []⟩ :: reading.groups, [], some c⟩ cs
      | '}' =>
        match reading.groups with
        | [] => .error .unopenedGroup
        | ⟨before, branches⟩ :: outer =>
          let part := Part.alternatives ((reading.branch.reverse :: branches).reverse)
          read limit ⟨outer, part :: before, some c⟩ cs
      | ',' =>
        match reading.groups with
        | [] => read limit (next (.char c)) cs
        | ⟨before, branches⟩ :: outer =>
          read limit ⟨⟨before, reading.branch.reverse :: branches⟩ :: outer, [], some c⟩ cs
      | '\\' =>
        match cs with
        | [] => .error .danglingEscape
        | d :: rest => read limit { reading.add (.char d) with last := some d } rest
      | _ => read limit (next (.char c)) cs

/-- The pattern of a text. -/
def ofText (text : Text) : Except GlobError Glob :=
  match read text.length ⟨[], [], none⟩ text with
  | .ok parts => .ok ⟨parts⟩
  | .error cause => .error (.unreadable text cause)

end Glob

end StyleAudit
