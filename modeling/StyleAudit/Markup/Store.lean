import StyleAudit.Markup.Node

/-!
# Trees under construction

While a page is read, nodes move: they are put before others, taken out again and
given new parents. `Store` keeps nodes by number; node 0 is the document.

- `Store.create`, `Store.append`, `Store.insertBefore`, `Store.detach`,
  `Store.moveChildren`: the ways in which a tree changes.
- `Store.appendText`, `Store.insertTextBefore`: text joins a text that it touches.
- `Store.finish`: the finished trees.
-/

namespace StyleAudit.Markup

/-- What a stored node is. -/
inductive Content where
  | document
  | fragment
  | element (name : Name) (attributes : List Attribute)
  | text (content : Text)

/-- A stored node: what it is, and the numbers of its parent and children. -/
structure Entry where
  content : Content
  parent : Option Nat
  children : List Nat

/-- Nodes by number. -/
structure Store where
  entries : Array Entry

namespace Store

/-- A store that holds only the document. -/
def start : Store := ⟨#[⟨.document, none, []⟩]⟩

/-- The entry of a node. -/
def entry? (store : Store) (id : Nat) : Option Entry := store.entries[id]?

/-- Change the entry of a node. -/
def update (store : Store) (id : Nat) (change : Entry → Entry) : Store :=
  ⟨store.entries.modify id change⟩

/-- The name of an element. -/
def name? (store : Store) (id : Nat) : Option Name :=
  match store.entry? id with
  | some ⟨.element name _, _, _⟩ => some name
  | _ => none

/-- Whether a node is the HTML element with a given tag. -/
def isHtml (store : Store) (id : Nat) (tag : String) : Bool := store.name? id == some ⟨.html, tag⟩

/-- Whether a node is an HTML element with one of the given tags. -/
def isHtmlIn (store : Store) (id : Nat) (tags : List String) : Bool :=
  match store.name? id with
  | some ⟨.html, tag⟩ => tags.contains tag
  | _ => false

/-- The attributes of an element. -/
def attributes (store : Store) (id : Nat) : List Attribute :=
  match store.entry? id with
  | some ⟨.element _ attributes, _, _⟩ => attributes
  | _ => []

/-- The parent of a node. -/
def parent? (store : Store) (id : Nat) : Option Nat := (store.entry? id).bind Entry.parent

/-- The children of a node. -/
def children (store : Store) (id : Nat) : List Nat :=
  ((store.entry? id).map Entry.children).getD []

/-- A new node without a parent. -/
def create (store : Store) (content : Content) : Store × Nat :=
  (⟨store.entries.push ⟨content, none, []⟩⟩, store.entries.size)

/-- Take a node out of its parent. -/
def detach (store : Store) (id : Nat) : Store :=
  match store.parent? id with
  | none => store
  | some parent =>
    (store.update parent fun e => { e with children := e.children.filter (· != id) }).update id
      fun e => { e with parent := none }

/-- Make a node the last child of another. -/
def append (store : Store) (parent id : Nat) : Store :=
  ((store.detach id).update parent fun e => { e with children := e.children ++ [id] }).update id
    fun e => { e with parent := some parent }

/-- Put `id` before `sibling` in a list. -/
def before (sibling id : Nat) : List Nat → List Nat
  | [] => [id]
  | child :: rest => if child = sibling then id :: child :: rest else child :: before sibling id rest

/-- Put a node directly before another one that has a parent. -/
def insertBefore (store : Store) (sibling id : Nat) : Store :=
  match store.parent? sibling with
  | none => store
  | some parent =>
    ((store.detach id).update parent fun e => { e with children := before sibling id e.children }).update
      id fun e => { e with parent := some parent }

/-- Give the children of one node to another. -/
def moveChildren (store : Store) (source target : Nat) : Store :=
  (store.children source).foldl (fun s child => s.append target child) store

/-- Whether a node is a text. -/
def isText (store : Store) (id : Nat) : Bool :=
  match store.entry? id with
  | some ⟨.text _, _, _⟩ => true
  | _ => false

/-- Add to the end of a text. -/
def extendText (store : Store) (id : Nat) (more : Text) : Store :=
  store.update id fun e =>
    match e.content with
    | .text content => { e with content := .text (content ++ more) }
    | _ => e

/-- Add text at the end of a node. -/
def appendText (store : Store) (parent : Nat) (text : Text) : Store :=
  match (store.children parent).getLast? with
  | some last =>
    if store.isText last then store.extendText last text
    else
      let (created, id) := store.create (.text text)
      created.append parent id
  | none =>
    let (created, id) := store.create (.text text)
    created.append parent id

/-- The node before another one in a list. -/
def preceding? (sibling : Nat) : List Nat → Option Nat
  | a :: b :: rest => if b = sibling then some a else preceding? sibling (b :: rest)
  | _ => none

/-- Add text directly before a node that has a parent. -/
def insertTextBefore (store : Store) (sibling : Nat) (text : Text) : Store :=
  let previous := (store.parent? sibling).bind fun parent => preceding? sibling (store.children parent)
  match previous with
  | some id =>
    if store.isText id then store.extendText id text
    else
      let (created, new) := store.create (.text text)
      created.insertBefore sibling new
  | none =>
    let (created, new) := store.create (.text text)
    created.insertBefore sibling new

/-- The trees of nodes, at most `depth` levels of them. -/
def toNodes (store : Store) : Nat → List Nat → List Node
  | 0, _ => []
  | depth + 1, ids =>
    ids.filterMap fun id =>
      match store.entry? id with
      | some ⟨.element name attributes, _, children⟩ =>
        some (.element id name attributes (store.toNodes depth children))
      | some ⟨.text content, _, _⟩ => some (.text content)
      | some ⟨.fragment, _, children⟩ => some (.fragment (store.toNodes depth children))
      | _ => none

/-- The nodes other than the document that have no parent. -/
def orphans (store : Store) : List Nat :=
  (List.range store.entries.size).filter fun id => id != 0 && (store.parent? id).isNone

/-- The finished trees: the nodes below the document, and those that have no parent. -/
def finish (store : Store) : Forest :=
  let nodes := store.toNodes (store.entries.size + 1)
  ⟨nodes (store.children 0), nodes store.orphans⟩

end Store

end StyleAudit.Markup
