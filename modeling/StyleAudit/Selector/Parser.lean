import StyleAudit.Selector.Basic
import StyleAudit.Selector.Fault

/-!
# Reading selectors

A selector list is read from pieces. What stands in brackets is read on its own and must be
used up; after a fault, reading goes on behind the bracket only where a list forgives
selectors that it cannot read.

- `Parse`: a step that uses up pieces or fails.
- `qualifiedName`, `attribute`, `nth`: the parts of simple tests.
- `parse`: the selectors of a text, or why it has none.
-/

namespace StyleAudit.Selector

/-- A step that uses up pieces or fails. After a failure the remaining pieces are known. -/
abbrev Parse := EStateM Fault (List Piece)

/-- The next piece, which may be blank. -/
def nextPiece : Parse Piece := do
  match ← get with
  | [] => throw .endOfInput
  | piece :: rest => set rest; return piece

/-- Whether a piece is blank. -/
def Piece.isBlank : Piece → Bool
  | .single (.blank _) => true
  | _ => false

/-- Pass over blanks. -/
def skipBlanks : Parse Unit := modify fun pieces => pieces.dropWhile Piece.isBlank

/-- The next piece that is not blank. -/
def nextVisible : Parse Piece := do skipBlanks; nextPiece

/-- Fail if anything but blanks is left. -/
def exhausted : Parse Unit := do
  match (← get).dropWhile Piece.isBlank with
  | [] => return
  | piece :: _ => throw (.unexpected piece.token)

/-- Read what stands in brackets, all of it. -/
def within {α : Type} (content : List Piece) (read : Parse α) : Parse α := fun outer =>
  match (do let value ← read; exhausted; return value : Parse α) content with
  | .ok value _ => .ok value outer
  | .error fault _ => .error fault outer

/-! ## Names -/

/-- A name with its namespace. -/
structure QualifiedName where
  /-- Whether the name is explicitly in no namespace. -/
  noSpace : Bool
  /-- Whether the name is explicitly in any namespace. -/
  anySpace : Bool
  /-- The name; none stands for all names. -/
  name : Option Text

/-- The name after a bar. -/
def nameAfterBar (inAttribute noSpace : Bool) : Parse QualifiedName := do
  match (← nextPiece).token with
  | .ident name => return ⟨noSpace, !noSpace, some name⟩
  | .delim '*' =>
    if inAttribute then throw (.badAttributeNameAfterBar (.delim '*'))
    return ⟨noSpace, !noSpace, none⟩
  | token => throw (if inAttribute then .badAttributeNameAfterBar token else .badNameAfterBar token)

/-- Whether a bar comes next. -/
def barFollows : Parse Bool := do
  match (← get).head? with
  | some (.single (.delim '|')) => return true
  | _ => return false

/-- A name with its namespace; the next word if there is none. No namespace has a label, so a
labelled one is unknown. -/
def qualifiedName (inAttribute : Bool) : Parse (Token ⊕ QualifiedName) := do
  match (← get).head?.map Piece.token with
  | none => throw .endOfInput
  | some (.ident name) =>
    let _ ← nextPiece
    if ← barFollows then
      let _ ← nextPiece
      throw (.unknownSpace name)
    return .inr ⟨false, false, some name⟩
  | some (.delim '*') =>
    let _ ← nextPiece
    if ← barFollows then
      let _ ← nextPiece
      return .inr (← nameAfterBar inAttribute false)
    if inAttribute then
      let next ← nextPiece
      throw (.attributeNeedsBar next.token)
    return .inr ⟨false, false, none⟩
  | some (.delim '|') =>
    let _ ← nextPiece
    return .inr (← nameAfterBar inAttribute true)
  | some token => return .inl token

/-- The tests of a type selector; none if there is none. -/
def typeTests : Parse (Option (List Simple)) := fun pieces =>
  match qualifiedName false pieces with
  | .ok (.inl _) rest => .ok none rest
  | .ok (.inr name) rest =>
    let test : Simple :=
      match name.name with
      | some tag => .tag tag
      | none => .any
    .ok (some (if name.noSpace then [.never, test] else [test])) rest
  | .error .endOfInput rest => .ok none rest
  | .error fault rest => .error fault rest

/-! ## Attributes -/

/-- The comparison that a word stands for. -/
def comparison? : Token → Option Comparison
  | .delim '=' => some .equal
  | .wordMatch => some .word
  | .dashMatch => some .dash
  | .startMatch => some .start
  | .endMatch => some .ending
  | .partMatch => some .part
  | _ => none

/-- Whether nothing but blanks is left. -/
def isDone : Parse Bool := return (← get).all Piece.isBlank

/-- The flag that says whether capitals matter. -/
def casing : Parse Casing := do
  if ← isDone then return .byName
  match (← nextVisible).token with
  | .ident flag =>
    if Text.lower flag == ['i'] then return .ignore
    if Text.lower flag == ['s'] then return .exact
    throw (.unexpected (.ident flag))
  | token => throw (.unexpected token)

/-- A test of an attribute, without its brackets. -/
def attributeTest : Parse AttributeTest := do
  skipBlanks
  match ← qualifiedName true with
  | .inl token => throw (.attributeNeedsName token)
  | .inr name =>
    let word := name.name.getD []
    if ← isDone then return ⟨name.anySpace, word, none⟩
    let sign := (← nextVisible).token
    match comparison? sign with
    | none => throw (.badComparison sign)
    | some comparison =>
      match (← nextVisible).token with
      | .ident value | .quoted value =>
        return ⟨name.anySpace, word, some (comparison, value, ← casing)⟩
      | token => throw (.badValue token)

/-! ## Places among siblings -/

/-- A whole number without a sign, as the offset of a place. -/
def unsignedOffset (step factor : Int) : Parse (Int × Int) := do
  match (← nextVisible).token with
  | .number ⟨false, _, some n⟩ => return (step, factor * n)
  | token => throw (.unexpected token)

/-- The offset of a place, which may be missing. -/
def offset (step : Int) : Parse (Int × Int) := do
  let before ← get
  skipBlanks
  match (← get).head?.map Piece.token with
  | some (.delim '+') => let _ ← nextPiece; unsignedOffset step 1
  | some (.delim '-') => let _ ← nextPiece; unsignedOffset step (-1)
  | some (.number ⟨true, _, some n⟩) => let _ ← nextPiece; return (step, n)
  | _ => set before; return (step, 0)

/-- The offset in a word such as `n-3`. -/
def dashOffset? (word : Text) : Option Int :=
  match word with
  | n :: '-' :: d :: ds =>
    if n.toLower == 'n' && (d :: ds).all Char.isDigit then
      some (clamp32 (-((d :: ds).foldl (fun n d => n * 10 + (d.toNat - '0'.toNat)) 0 : Nat)))
    else none
  | _ => none

/-- A place by a word with `n`, behind its sign if it has one. -/
def placeOfStep (word : Text) (step : Int) (rest : Text) : Parse (Int × Int) := do
  if rest == "n".toList then offset step
  else if rest == "n-".toList then unsignedOffset step (-1)
  else
    match dashOffset? rest with
    | some n => return (step, n)
    | none => throw (.unexpected (.ident word))

/-- A place by a word: `even`, `odd`, or something with `n`, whose sign may be part of the
word. -/
def placeOfWord (word : Text) : Parse (Int × Int) := do
  match Text.lower word with
  | ['e', 'v', 'e', 'n'] => return (2, 0)
  | ['o', 'd', 'd'] => return (2, 1)
  | '-' :: rest => placeOfStep word (-1) rest
  | rest => placeOfStep word 1 rest

/-- A place among siblings: the factor and the offset. -/
def place : Parse (Int × Int) := do
  match (← nextVisible).token with
  | .number ⟨_, _, some n⟩ => return (0, n)
  | .dimension ⟨_, _, some step⟩ unit =>
    let small := Text.lower unit
    if small == "n".toList then offset step
    else if small == "n-".toList then unsignedOffset step (-1)
    else
      match dashOffset? small with
      | some n => return (step, n)
      | none => throw (.unexpected (.ident unit))
  | .ident word => placeOfWord word
  | .delim '+' =>
    match (← nextPiece).token with
    | .ident word => placeOfStep word 1 (Text.lower word)
    | token => throw (.unexpected token)
  | token => throw (.unexpected token)

/-! ## Groups -/

/-- What may stand where a selector is read. -/
structure Allowed where
  pseudoElements : Bool
  combinators : Bool
  has : Bool

/-- Whether a relative selector is read, and whether unreadable selectors are forgiven. -/
structure ListKind where
  relative : Bool
  forgiving : Bool

/-- The combinator between two groups, if there is one. -/
def combinatorFrom : Bool → List Piece → Option Combinator × List Piece
  | _, [] => (none, [])
  | afterBlank, piece :: rest =>
    match piece with
    | .single (.blank _) => combinatorFrom true rest
    | .single (.delim '>') => (some .child, rest)
    | .single (.delim '+') => (some .nextSibling, rest)
    | .single (.delim '~') => (some .laterSibling, rest)
    | _ => (if afterBlank then some .descendant else none, piece :: rest)

/-- The combinator that comes next, if there is one. -/
def combinator? : Parse (Option Combinator) := do
  let (combinator, rest) := combinatorFrom false (← get)
  set rest
  return combinator

/-- Pseudo-elements that may be written with one colon. -/
def isOldPseudoElement (name : Text) : Bool :=
  ["before", "after", "first-line", "first-letter"].contains (String.ofList (Text.lower name))

/-- The test of a pseudo-class without brackets. -/
def plainPseudo? (name : Text) : Option Simple :=
  match String.ofList (Text.lower name) with
  | "first-child" => some (.nth ⟨0, 1, false, false⟩)
  | "last-child" => some (.nth ⟨0, 1, true, false⟩)
  | "first-of-type" => some (.nth ⟨0, 1, false, true⟩)
  | "last-of-type" => some (.nth ⟨0, 1, true, true⟩)
  | "only-child" => some (.oneOf [.group [.nth ⟨0, 1, false, false⟩, .nth ⟨0, 1, true, false⟩]])
  | "only-of-type" => some (.oneOf [.group [.nth ⟨0, 1, false, true⟩, .nth ⟨0, 1, true, true⟩]])
  | "root" | "scope" => some .root
  | "empty" => some .empty
  | _ => none

mutual

/-- Words that are wrong wherever they stand. -/
def Piece.wrong? : Piece → Option Token
  | .single token =>
    match token with
    | .badQuoted _ | .badUrl _ | .closing _ => some token
    | _ => none
  | .block _ content => Piece.firstWrong? content

/-- The first word that is wrong wherever it stands. -/
def Piece.firstWrong? : List Piece → Option Token
  | [] => none
  | piece :: rest => (Piece.wrong? piece).or (Piece.firstWrong? rest)

end

/-- A list of pieces, cut at its commas. -/
def atCommas : List Piece → List (List Piece)
  | [] => [[]]
  | .single .comma :: rest => [] :: atCommas rest
  | piece :: rest =>
    match atCommas rest with
    | first :: more => (piece :: first) :: more
    | [] => [[piece]]

/-- The result of a selector of a list. A forgiving list takes what cannot be read for a
selector that matches nothing, unless words follow that are wrong everywhere. -/
def settle (forgiving : Bool) : EStateM.Result Fault (List Piece) Steps → Except Fault Steps
  | .ok steps rest =>
    match rest.dropWhile Piece.isBlank with
    | [] => .ok steps
    | piece :: _ =>
      if forgiving then forgive rest else .error (.unexpected piece.token)
  | .error fault rest => if forgiving then forgive rest else .error fault
where
  /-- A selector that matches nothing. -/
  forgive (rest : List Piece) : Except Fault Steps :=
    match Piece.firstWrong? rest with
    | some token => .error (.unexpected token)
    | none => .ok [(.descendant, [.never])]

mutual

/-- The selectors of a list. -/
def list (fuel : Nat) (allowed : Allowed) (kind : ListKind) :
    List (List Piece) → Except Fault (List Steps)
  | [] => .ok []
  | pieces :: more =>
    match fuel with
    | 0 => .error .endOfInput
    | fuel + 1 => do
      let first ← settle kind.forgiving (selector fuel allowed kind.relative pieces)
      let rest ← list fuel allowed kind more
      return first :: rest

/-- One selector. -/
def selector (fuel : Nat) (allowed : Allowed) (relative : Bool) : Parse Steps :=
  match fuel with
  | 0 => throw .endOfInput
  | fuel + 1 => do
    skipBlanks
    let first ← if relative then combinator? else pure none
    groups fuel allowed relative (first.getD .descendant)

/-- The groups of a selector from `combinator` on; `joined` says whether it is written or
implied by the place of the selector. -/
def groups (fuel : Nat) (allowed : Allowed) (joined : Bool) (combinator : Combinator) : Parse Steps :=
  match fuel with
  | 0 => throw .endOfInput
  | fuel + 1 => do
    skipBlanks
    let type ← typeTests
    let tests ← simples fuel allowed
    if type.isNone && tests.isEmpty then
      throw (if joined then .danglingCombinator else .noSelector)
    let group := (combinator, type.getD [] ++ tests)
    match ← combinator? with
    | none => return [group]
    | some next =>
      if !allowed.combinators then throw .misplaced
      return group :: (← groups fuel allowed true next)

/-- The simple tests of a group. -/
def simples (fuel : Nat) (allowed : Allowed) : Parse (List Simple) :=
  match fuel with
  | 0 => throw .endOfInput
  | fuel + 1 => do
    match ← simple? fuel allowed with
    | none => return []
    | some test => return test :: (← simples fuel allowed)

/-- One simple test, if there is one. -/
def simple? (fuel : Nat) (allowed : Allowed) : Parse (Option Simple) :=
  match fuel with
  | 0 => throw .endOfInput
  | fuel + 1 => do
    match (← get).head? with
    | some (.single (.idHash name)) =>
      let _ ← nextPiece
      return some (.id name)
    | some (.single (.delim '.')) =>
      let _ ← nextPiece
      match (← nextPiece).token with
      | .ident name => return some (.className name)
      | token => throw (.classNeedsName token)
    | some (.block (.opening .square) content) =>
      let _ ← nextPiece
      return some (.attribute (← within content attributeTest))
    | some (.single .colon) =>
      let _ ← nextPiece
      let second ← nextPiece
      match second with
      | .single .colon => pseudo fuel allowed true (← nextPiece)
      | piece => pseudo fuel allowed false piece
    | _ => return none

/-- What follows one or two colons. -/
def pseudo (fuel : Nat) (allowed : Allowed) (twoColons : Bool) (piece : Piece) :
    Parse (Option Simple) :=
  match fuel with
  | 0 => throw .endOfInput
  | fuel + 1 => do
    match piece with
    | .single (.ident name) =>
      if twoColons || isOldPseudoElement name then
        throw (if allowed.pseudoElements then .unsupportedPseudo name else .misplaced)
      match plainPseudo? name with
      | some test => return some test
      | none => throw (.unsupportedPseudo name)
    | .block (.function name) content =>
      if twoColons || isOldPseudoElement name then
        throw (if allowed.pseudoElements then .unsupportedPseudo name else .misplaced)
      return some (← withArgument fuel allowed name content)
    | piece => throw (.pseudoNeedsName piece.token)

/-- The test of a pseudo-class with brackets. -/
def withArgument (fuel : Nat) (allowed : Allowed) (name : Text) (content : List Piece) :
    Parse Simple :=
  match fuel with
  | 0 => throw .endOfInput
  | fuel + 1 => do
    let inner := { allowed with pseudoElements := false }
    let selectors (allowed : Allowed) (kind : ListKind) : Parse (List Steps) :=
      match list fuel allowed kind (atCommas content) with
      | .ok steps => pure steps
      | .error fault => throw fault
    let nth (fromEnd ofType : Bool) : Parse Simple := do
      let (step, offset) ← within content place
      return .nth ⟨step, offset, fromEnd, ofType⟩
    match String.ofList (Text.lower name) with
    | "nth-child" => nth false false
    | "nth-of-type" => nth false true
    | "nth-last-child" => nth true false
    | "nth-last-of-type" => nth true true
    | "is" | "where" => return .oneOf ((← selectors inner ⟨false, true⟩).map Complex.ofSteps)
    | "not" => return .not ((← selectors inner ⟨false, false⟩).map Complex.ofSteps)
    | "has" =>
      if !allowed.has then throw .misplaced
      let steps ← selectors { inner with has := false } ⟨true, false⟩
      return .has (steps.map Relative.ofSteps)
    | "host" =>
      let _ ← within content (selector fuel { inner with combinators := false } false)
      return .never
    | _ => throw (.unsupportedPseudo name)

end

/-- The selectors of a text, or why it has none. -/
def parse (text : Text) : Except Fault (List Complex) :=
  let steps := list (8 * text.length + 16) ⟨true, true, true⟩ ⟨false, false⟩ (atCommas (Piece.ofText text))
  steps.map fun list => list.map Complex.ofSteps

end StyleAudit.Selector
