import AccessAudit.Markup.Element

/-!
# Documents

A document is a growing store of nodes. Node zero is the root; every other node is created
detached and can be attached once, as the last child of the root or of an element. Only what is
reachable from the root through child lists belongs to the document proper:
`Document.elements` lists the elements of that part in document order.

Attaching looks at the two nodes only, so detached nodes may be attached below one another in
any way. Nothing below the root is affected by that.

Nodes are named by natural numbers. Documents of fewer than `2 ^ 32` nodes are meant, whose names
fit into 32 bits.
-/

namespace AccessAudit

/-- The name of a node: its position in the store. -/
@[ext]
structure NodeId where
  index : Nat
deriving DecidableEq, Repr

namespace NodeId

/-- The root of every document. -/
def root : NodeId := ⟨0⟩

/-- The name as it is shown. -/
def text (id : NodeId) : String := "#" ++ toString id.index

end NodeId

/-- What a node holds. -/
inductive NodeContent where
  | root
  | element (held : Element)
  | text (content : String)

namespace NodeContent

/-- The element a node holds, if any. -/
def element? : NodeContent → Option Element
  | .element held => some held
  | _ => none

/-- Texts cannot have children. -/
def isText : NodeContent → Bool
  | .text _ => true
  | _ => false

end NodeContent

/-- A node of a document. -/
structure Node where
  parent : Option NodeId
  children : List NodeId
  content : NodeContent

/-- Why a node could not be attached. -/
inductive AttachError where
  | missingNode (id : NodeId)
  | notAContainer (id : NodeId)
  | alreadyAttached (id : NodeId)
deriving DecidableEq, Repr

namespace AttachError

/-- The error as it is shown. -/
def message : AttachError → String
  | .missingNode id => "No node with id " ++ id.text
  | .notAContainer id => "Node " ++ id.text ++ " cannot have children"
  | .alreadyAttached id => "Node " ++ id.text ++ " is already attached"

end AttachError

/-- A document: its nodes by their names. -/
structure Document where
  nodes : Array Node

namespace Document

/-- The document that has only the root. -/
def empty : Document := ⟨#[⟨none, [], .root⟩]⟩

/-- The number of nodes, detached ones included. -/
def size (document : Document) : Nat := document.nodes.size

/-- There is no node but the root. -/
def isEmpty (document : Document) : Bool := document.size ≤ 1

/-- The node of a name. -/
def node? (document : Document) (id : NodeId) : Option Node := document.nodes[id.index]?

/-- The element of a name. -/
def element? (document : Document) (id : NodeId) : Option Element :=
  (document.node? id).bind fun node => node.content.element?

/-- Add a detached node; its name is the previous number of nodes. -/
def create (document : Document) (content : NodeContent) : Document × NodeId :=
  (⟨document.nodes.push ⟨none, [], content⟩⟩, ⟨document.size⟩)

/-- Creating a node adds one. -/
@[simp]
theorem size_create (document : Document) (content : NodeContent) :
    (document.create content).1.size = document.size + 1 := by
  simp [create, size]

/-- Creating a node changes none of the others. -/
theorem node?_create (document : Document) (content : NodeContent) (id : NodeId) :
    (document.create content).1.node? id =
      if id.index = document.size then some ⟨none, [], content⟩ else document.node? id := by
  simp only [create, node?, size, Array.getElem?_push]
  rfl

/-- Add a detached element. -/
def createElement (document : Document) (element : Element) : Document × NodeId :=
  document.create (.element element)

/-- Add a detached text. -/
def createText (document : Document) (text : String) : Document × NodeId :=
  document.create (.text text)

/-- The document with the child last among the children of the parent. -/
def link (document : Document) (parent child : NodeId) : Document :=
  let marked := document.nodes.modify child.index fun node => { node with parent := some parent }
  ⟨marked.modify parent.index fun node => { node with children := node.children ++ [child] }⟩

/-- Linking adds no node. -/
@[simp]
theorem size_link (document : Document) (parent child : NodeId) :
    (document.link parent child).size = document.size := by
  simp [link, size]

/-- Linking sets the parent of the child and adds to the children of the parent, and changes
nothing else. -/
theorem node?_link (document : Document) (parent child id : NodeId) :
    (document.link parent child).node? id = (document.node? id).map fun node =>
      { node with
        parent := if id = child then some parent else node.parent
        children := if id = parent then node.children ++ [child] else node.children } := by
  simp only [link, node?, Array.getElem?_modify, NodeId.ext_iff, eq_comm (a := id.index)]
  cases document.nodes[id.index]? with
  | none => simp
  | some node =>
    by_cases isParent : parent.index = id.index <;> by_cases isChild : child.index = id.index <;>
      simp only [isParent, isChild, if_true, if_false, Option.map_some]

/-- Attach a detached node as the last child of a parent. -/
def attach (document : Document) (parent child : NodeId) : Except AttachError Document :=
  match document.node? parent with
  | none => .error (.missingNode parent)
  | some parentNode =>
    if parentNode.content.isText then .error (.notAContainer parent)
    else
      match document.node? child with
      | none => .error (.missingNode child)
      | some childNode =>
        if child = NodeId.root || childNode.parent.isSome then .error (.alreadyAttached child)
        else .ok (document.link parent child)

/-- Create an element and attach it. The element stays in the document, detached, where it
cannot be attached. -/
def appendElement (document : Document) (parent : NodeId) (element : Element) :
    Document × Except AttachError NodeId :=
  let (extended, id) := document.createElement element
  match extended.attach parent id with
  | .ok attached => (attached, .ok id)
  | .error cause => (extended, .error cause)

/-- The document of a single element below the root. -/
def ofElement (element : Element) : Document :=
  let (document, id) := empty.createElement element
  document.link NodeId.root id

/-- Visit the node on top of a stack: it is taken off, and its children are put there from the
last to the first, so that the first one comes next. Given are the element the node holds, if
any, and the stack that is left. -/
def visitTop (document : Document) (stack : Array NodeId) :
    Option (NodeId × Element) × Array NodeId :=
  match stack.back? with
  | none => (none, stack)
  | some id =>
    match document.node? id with
    | none => (none, stack.pop)
    | some node =>
      (node.content.element?.map fun element => (id, element), stack.pop ++ node.children.reverse)

/-- The elements met in a number of visits, and the stack that is left. -/
def visit (document : Document) : (visits : Nat) → (stack : Array NodeId) →
    List (NodeId × Element) × Array NodeId
  | 0, stack => ([], stack)
  | visits + 1, stack =>
    let (met, pushed) := document.visitTop stack
    let (later, left) := document.visit visits pushed
    (met.toList ++ later, left)

theorem visit_succ (document : Document) (visits : Nat) (stack : Array NodeId) :
    document.visit (visits + 1) stack =
      let top := document.visitTop stack
      (top.1.toList ++ (document.visit visits top.2).1, (document.visit visits top.2).2) := rfl

/-- The elements below the root in document order. A node has at most one parent, so no node is
visited twice and the number of nodes bounds the number of visits. -/
def elements (document : Document) : List (NodeId × Element) :=
  (document.visit document.size #[NodeId.root]).1

end Document
end AccessAudit
