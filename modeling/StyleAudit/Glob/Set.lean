import StyleAudit.Glob
import StyleAudit.Text.Blank
import StyleAudit.Text.Quoted

/-!
# Sets of path patterns

A pattern that is more than a name, a start or an end of a path is compared as a regular
expression, and the nesting of expressions is limited.

- `Part.expression`, `Glob.expression`: the expression of a pattern, as messages show it.
- `Part.depth`, `Glob.depth`: how deeply the expression is nested.
- `Glob.comparison`: which patterns are compared as expressions.
- `Glob.ofTexts`: the patterns of texts, or what is wrong with them.
-/

namespace StyleAudit

/-! ## Expressions -/

/-- Characters that have a meaning in expressions. -/
def expressionSigns : Text := "\\.+*?()|[]\x7b\x7d^$#&-~".toList

/-- A byte in an expression. -/
def expressionByte (byte : UInt8) : Text :=
  if byte < 0x80 then
    let c := Char.ofNat byte.toNat
    if List.contains expressionSigns c then ['\\', c] else [c]
  else "\\x".toList ++ Text.hex byte.toNat

/-- A character in an expression, byte by byte. -/
def expressionChar (c : Char) : Text := (String.utf8EncodeChar c).flatMap expressionByte

/-- A range of a class in an expression. -/
def expressionRange : Char × Char → Text
  | (low, high) =>
    if low = high then expressionChar low else expressionChar low ++ '-' :: expressionChar high

mutual

/-- The expression of a part. -/
def Part.expression : Part → Text
  | .char c => expressionChar c
  | .one => ['.']
  | .many => ".*".toList
  | .leadingFolders => "(?:/?|.*/)".toList
  | .trailingFolders => "/.*".toList
  | .betweenFolders => "(?:/|/.*/)".toList
  | .range negated ranges =>
    '[' :: (if negated then ['^'] else []) ++ ranges.flatMap expressionRange ++ [']']
  | .alternatives branches =>
    match Part.branchExpressions branches with
    | [] => []
    | texts => "(?:".toList ++ Text.join ['|'] texts ++ [')']

/-- The expression of parts. -/
def Part.allExpressions : List Part → Text
  | [] => []
  | part :: parts => part.expression ++ Part.allExpressions parts

/-- The expressions of branches. Empty branches do not count. -/
def Part.branchExpressions : List (List Part) → List Text
  | [] => []
  | branch :: branches =>
    if Part.allVoid branch then Part.branchExpressions branches
    else Part.allExpressions branch :: Part.branchExpressions branches

end

/-! ## Nesting -/

/-- One level if there is more than one thing. -/
def levelOf (count : Nat) : Nat := if count ≥ 2 then 1 else 0

/-- The number of items that a range puts into a class: a range, and single bytes. -/
def rangeItems : Char × Char → Nat
  | (low, high) => if low = high then low.utf8Size else low.utf8Size + high.utf8Size - 1

/-- The number of items that a part puts into a row. -/
def Part.items : Part → Nat
  | .char c => c.utf8Size
  | .trailingFolders => 2
  | part => if part.isVoid then 0 else 1

mutual

/-- The levels of a part: each group, choice, row, repetition and class is one. -/
def Part.depth : Part → Nat
  | .char _ | .one => 0
  | .many | .trailingFolders => 1
  | .leadingFolders | .betweenFolders => 4
  | .range _ ranges => 1 + levelOf (ranges.map rangeItems).sum
  | .alternatives branches =>
    let count := branches.countP fun branch => !Part.allVoid branch
    if count = 0 then 0 else 1 + levelOf count + Part.depthOfBranches branches

/-- The levels of parts inside their row. -/
def Part.depthOfAll : List Part → Nat
  | [] => 0
  | part :: parts => max part.depth (Part.depthOfAll parts)

/-- The levels of branches, with those of their rows. -/
def Part.depthOfBranches : List (List Part) → Nat
  | [] => 0
  | branch :: branches =>
    max (levelOf (branch.map Part.items).sum + Part.depthOfAll branch) (Part.depthOfBranches branches)

end

/-! ## Kinds of patterns -/

/-- The character of a plain part. -/
def Part.char? : Part → Option Char
  | .char c => some c
  | _ => none

/-- How paths are compared with a pattern. -/
inductive GlobComparison where
  /-- As text: the whole path, its name, its start or its end. -/
  | plain
  /-- By the ending of the name first, then by an expression of its own. -/
  | ending
  /-- By an expression, together with the others of this kind. -/
  | expression
  deriving DecidableEq, Repr

namespace Glob

/-- Whether parts are characters only. -/
def isPlain (parts : List Part) : Bool := parts.all fun part => part.char?.isSome

/-- Whether a pattern is a plain text. -/
def isText (parts : List Part) : Bool := !parts.isEmpty && isPlain parts

/-- Whether a pattern is a name in any folder. -/
def isName : List Part → Bool
  | .leadingFolders :: parts => isText parts && !parts.any fun part => part.char? == some '/'
  | _ => false

/-- Whether a pattern is an extension of names. -/
def isExtension : List Part → Bool
  | .leadingFolders :: .many :: .char '.' :: parts | .many :: .char '.' :: parts =>
    parts.all fun part => part.char?.any fun c => c != '.' && c != '/'
  | _ => false

/-- Whether a pattern is a plain start of paths. -/
def isStart (parts : List Part) : Bool :=
  match parts.getLast? with
  | some .many => isText parts.dropLast
  | some .trailingFolders => isPlain parts.dropLast
  | _ => false

/-- Whether a pattern is a plain end of paths. -/
def isEnd : List Part → Bool
  | .leadingFolders :: .many :: parts | .many :: parts =>
    isText parts && parts.filterMap Part.char? != ['/']
  | .leadingFolders :: parts => isText parts
  | _ => false

/-- Whether the last of some plain parts, given last first, are an ending of names: a dot and
characters other than slashes. -/
def endsName : List Part → Bool
  | .char c :: before => c == '.' || (c != '/' && endsName before)
  | _ => false

/-- How paths are compared with a pattern. -/
def comparison (glob : Glob) : GlobComparison :=
  let parts := glob.parts
  if isName parts || isText parts || isExtension parts || isStart parts || isEnd parts then .plain
  else if endsName parts.reverse then .ending
  else .expression

/-- The expression of a pattern. -/
def expression (glob : Glob) : Text :=
  let inside :=
    match glob.parts with
    | [.leadingFolders] => Part.many.expression
    | parts => Part.allExpressions parts
  "(?-u)^".toList ++ inside ++ ['$']

/-- How deeply the expression of a pattern is nested. The expression itself is a row. -/
def depth (glob : Glob) : Nat :=
  match glob.parts with
  | [.leadingFolders] => 1 + Part.many.depth
  | parts => 1 + Part.depthOfAll parts

/-! ## Reading sets -/

/-- How deeply an expression may be nested. -/
def depthLimit : Nat := 250

/-- Whether the expression of a pattern is nested too deeply. -/
def isTooDeep (glob : Glob) : Bool := glob.depth > depthLimit

/-- What is wrong with patterns that could be read, if anything. -/
def firstTooDeep? (globs : List Glob) : Option GlobError :=
  let alone := globs.filter fun glob => glob.comparison == .ending
  let together := globs.filter fun glob => glob.comparison == .expression
  ((alone.find? isTooDeep).map fun glob => GlobError.tooDeepAlone glob.expression).or
    ((together.findIdx? isTooDeep).map GlobError.tooDeep)

/-- The patterns of texts, if all of them can be used. Those that cannot be read are noticed
before those that are nested too deeply. -/
def ofTexts (texts : List Text) : Except GlobError (List Glob) :=
  match texts.mapM ofText with
  | .error error => .error error
  | .ok globs =>
    match firstTooDeep? globs with
    | some error => .error error
    | none => .ok globs

end Glob

end StyleAudit
