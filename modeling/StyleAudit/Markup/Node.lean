import StyleAudit.Markup.Token

/-!
# Document trees

- `Space`, `Name`: element names with their namespaces.
- `Node`: elements, texts, and the fragment that holds a template's content.
- `Node.textContent`: the text below a node.
- `Forest`: what reading a page leaves: its tree, and trees that were taken out of it.
-/

namespace StyleAudit.Markup

/-- The namespaces of elements. -/
inductive Space where
  | html | svg | math
  deriving DecidableEq, Repr

/-- The name of an element. -/
structure Name where
  space : Space
  tag : String
  deriving DecidableEq, Repr

/-- A node of a document tree. Comments are not kept. Elements are numbered in the order in
which they were made, which is not always that of the tree. -/
inductive Node where
  | element (number : Nat) (name : Name) (attributes : List Attribute) (children : List Node)
  | text (content : Text)
  /-- The content of a template, which is not part of the template element. -/
  | fragment (children : List Node)
  deriving Repr

namespace Node

/-- Whether a node is an element. -/
def isElement : Node → Bool
  | element .. => true
  | _ => false

/-- Whether a node is a text. -/
def isText : Node → Bool
  | text _ => true
  | _ => false

mutual

/-- The text of a node and of everything below it. -/
def textContent : Node → Text
  | element _ _ _ children => textContents children
  | text content => content
  | fragment children => textContents children

/-- The text of nodes and of everything below them. -/
def textContents : List Node → Text
  | [] => []
  | node :: rest => textContent node ++ textContents rest

end

end Node

/-- The trees of a page: the nodes at its top, and the nodes at the top of what was made for
the page and then taken out of it. -/
structure Forest where
  page : List Node
  loose : List Node
  deriving Repr

end StyleAudit.Markup
