import StyleAudit.Markup.Builder

/-!
# End tags

- `closeNamed`: an end tag closes the innermost open element of its name, unless a special
  element stands in between.
- `adopt`: the end tag of a formatting element such as `b` may stand inside a block that was
  opened within the element. The block is then taken out of the element and its content
  wrapped in a copy of it.
-/

namespace StyleAudit.Markup

/-- The open elements outside the innermost one with a given tag; none if there is no such
element, or a special one stands in between. -/
def Builder.outsideNamed? (b : Builder) (tag : String) : List Nat → Option (List Nat)
  | [] => none
  | id :: outer =>
    if b.store.isHtml id tag then some outer
    else if (b.store.name? id).any isSpecial then none
    else b.outsideNamed? tag outer

/-- Close the innermost open element with a given tag if no special element stands in
between. -/
def closeNamed (tag : String) : Build Unit := modify fun b =>
  match b.outsideNamed? tag b.openIds with
  | some outer => { b with openIds := outer }
  | none => b

/-- The open elements around a formatting element: those inside its furthest block, the
block, those between the two, and those outside the formatting element. Lists have the
innermost element first. -/
structure Surroundings where
  inside : List Nat
  block : Nat
  between : List Nat
  outside : List Nat

/-- The open elements around a formatting element; none if no special element is open inside
it. -/
def Builder.surroundings? (b : Builder) (formatting : Nat) : Option Surroundings :=
  let inner := b.openIds.takeWhile (· != formatting)
  let outside := (b.openIds.dropWhile (· != formatting)).drop 1
  let ordinary := inner.reverse.takeWhile fun id => !(b.store.name? id).any isSpecial
  match inner.reverse.drop ordinary.length with
  | block :: inside => some ⟨inside.reverse, block, ordinary.reverse, outside⟩
  | [] => none

/-- Wrap `last` in copies of the elements between the block and the formatting element.
Elements that are no formatting, and all but the first three, are closed instead. Gives the
outermost node, the copies that stay open, and the first copy if there is one. -/
def wrapInCopies : Nat → Nat → List Nat → List Nat → Option Nat →
    Build (Nat × List Nat × Option Nat)
  | _, last, [], kept, first => return (last, kept.reverse, first)
  | count, last, id :: outer, kept, first => do
    let b ← get
    if count ≥ 3 then
      removeFormatting id
      wrapInCopies (count + 1) last outer kept first
    else
      match b.formatting.find? fun entry => entry.isFor id with
      | some (.element _ tag) =>
        let (made, copy) := b.newElement ⟨.html, tag.name⟩ tag.attributes
        let swap (entry : Formatting) : Formatting :=
          if entry.isFor id then .element copy tag else entry
        set { made with
          formatting := made.formatting.map swap
          store := made.store.append copy last }
        wrapInCopies (count + 1) copy outer (copy :: kept) (first <|> some copy)
      | _ => wrapInCopies (count + 1) last outer kept first

/-- Put the copy of a formatting element into the list: in place of the element, or just
after the first copy that was made around the block. -/
def placeCopy (old : Nat) (first : Option Nat) (copy : Formatting) (list : List Formatting) :
    List Formatting :=
  match first with
  | none => list.map fun entry => if entry.isFor old then copy else entry
  | some id =>
    (list.flatMap fun entry => if entry.isFor id then [copy, entry] else [entry]).filter
      fun entry => !entry.isFor old

/-- One round of an end tag of formatting; whether there may be another. -/
def adoptOnce (name : String) : Build Bool := do
  let b ← get
  match (Formatting.recent b.formatting).find? fun entry => entry.2.name == name with
  | none => closeNamed name; return false
  | some (id, tag) =>
    if !b.openIds.contains id then
      removeFormatting id
      return false
    if !b.inScope endsScope (· == id) then return false
    match b.surroundings? id with
    | none =>
      set { b with openIds := (b.openIds.dropWhile (· != id)).drop 1 }
      removeFormatting id
      return false
    | some ⟨inside, block, between, outside⟩ =>
      let (last, kept, first) ← wrapInCopies 0 block between [] none
      modify fun b =>
        let loose := { b with store := b.store.detach last }
        loose.putAt (loose.placeIn (outside.head?.getD 0)) last
      let b ← get
      let (made, copy) := b.newElement ⟨.html, tag.name⟩ tag.attributes
      set { made with
        store := (made.store.moveChildren block copy).append block copy
        formatting := placeCopy id first (.element copy tag) made.formatting
        openIds := inside ++ [copy, block] ++ kept ++ outside }
      return true

/-- At most `rounds` rounds of an end tag of formatting. -/
def adoptRounds (name : String) : Nat → Build Unit
  | 0 => return
  | rounds + 1 => do if ← adoptOnce name then adoptRounds name rounds

/-- The end tag of a formatting element. -/
def adopt (name : String) : Build Unit := do
  let b ← get
  if b.currentIs name && !b.formatting.any fun entry => entry.isFor b.current then closeCurrent
  else adoptRounds name 8

end StyleAudit.Markup
