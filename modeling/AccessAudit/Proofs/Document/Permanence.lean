import AccessAudit.Proofs.Document.Construction
import Mathlib.Data.List.Nodup

/-!
# What is built stays

This file proves what the nodes of every document are like, and what later calls can do to them.

A link is stored twice, as the parent of one node and as a child of the other. The invariant of
`Construction` makes one of the two a function of the other: a node is in the list of children of
its parent, once, and in no other list (`Document.WellFormed.count_children`).

Calls only ever add. What a node holds is never changed, a node that has a parent keeps it, and a
list of children is continued at its end (`Node.Grows`). This is so for the two changes that calls
are made of, and hence for any number of calls, failing ones included.
-/

namespace AccessAudit

/-- What can become of a node. -/
structure Node.Grows (before after : Node) : Prop where
  content : after.content = before.content
  parent : ∀ {parent : NodeId}, before.parent = some parent → after.parent = some parent
  children : before.children <+: after.children

namespace Node.Grows

theorem refl (node : Node) : node.Grows node :=
  ⟨rfl, id, List.prefix_refl node.children⟩

theorem trans {first second third : Node} (earlier : first.Grows second)
    (later : second.Grows third) : first.Grows third := by
  refine ⟨later.content.trans earlier.content, ?_, earlier.children.trans later.children⟩
  intro parent hasParent
  exact later.parent (earlier.parent hasParent)

end Node.Grows

namespace Document

variable {document : Document} {id parent child : NodeId} {node : Node}

def parent? (document : Document) (id : NodeId) : Option NodeId :=
  (document.node? id).bind Node.parent

theorem parent?_eq_some_iff :
    document.parent? id = some parent ↔
      ∃ node, document.node? id = some node ∧ node.parent = some parent := by
  simp [parent?, Option.bind_eq_some_iff]

/-- Every node of the first document is one of the second, where it may have grown. -/
def Grows (before after : Document) : Prop :=
  ∀ id node, before.node? id = some node →
    ∃ later, after.node? id = some later ∧ node.Grows later

namespace Grows

variable {first second third : Document}

theorem refl (document : Document) : document.Grows document :=
  fun _ node found => ⟨node, found, .refl node⟩

theorem trans (earlier : first.Grows second) (later : second.Grows third) :
    first.Grows third := by
  intro id node found
  rcases earlier id node found with ⟨middle, foundMiddle, toMiddle⟩
  rcases later id middle foundMiddle with ⟨last, foundLast, toLast⟩
  exact ⟨last, foundLast, toMiddle.trans toLast⟩

theorem of_link (attachable : document.Attachable parent child) :
    document.Grows (document.link parent child) := by
  intro id node found
  rcases node?_link_of_node? parent child found with ⟨after, foundAfter, content, above, below⟩
  refine ⟨after, foundAfter, content, ?_, ?_⟩
  · intro kept hasParent
    have notChild : id ≠ child := by
      rintro rfl
      rcases attachable.detached with ⟨detached, foundDetached, free⟩
      simp_all
    simpa [above, notChild] using hasParent
  · rw [below]
    split
    · exact List.prefix_append _ _
    · exact List.prefix_refl _

theorem of_change (change : Change first second) : first.Grows second := by
  cases change with
  | create notRoot => exact fun _ node found => ⟨node, node?_create_of_node? found, .refl node⟩
  | link attachable => exact of_link attachable

theorem of_changes (changes : Relation.ReflTransGen Change first second) :
    first.Grows second := by
  induction changes with
  | refl => exact refl first
  | tail _ change ih => exact ih.trans (of_change change)

theorem performAll (document : Document) (calls : List DocumentCall) :
    document.Grows (calls.foldl Document.perform document) := by
  induction calls generalizing document with
  | nil => exact refl document
  | cons call calls ih => exact (of_changes (perform_changes document call)).trans (ih _)

end Grows

namespace WellFormed

theorem mem_children_iff (wellFormed : document.WellFormed)
    (found : document.node? id = some node) :
    child ∈ node.children ↔ document.parent? child = some id := by
  rw [parent?_eq_some_iff]
  constructor
  · exact wellFormed.childLinked found
  · rintro ⟨childNode, childFound, linked⟩
    rcases wellFormed.parentLinked childFound linked with ⟨parentNode, parentFound, listed⟩
    rw [found] at parentFound
    cases parentFound
    exact listed

/-- A node is once in the list of children of its parent, and in no other. -/
theorem count_children (wellFormed : document.WellFormed)
    (found : document.node? id = some node) (child : NodeId) :
    node.children.count child = if document.parent? child = some id then 1 else 0 := by
  rw [List.Nodup.count (wellFormed.childrenNodup found)]
  simp [wellFormed.mem_children_iff found]

theorem parent_lt_size (wellFormed : document.WellFormed)
    (found : document.node? id = some node) (hasParent : node.parent = some parent) :
    parent.index < document.size := by
  rcases wellFormed.parentLinked found hasParent with ⟨parentNode, parentFound, _⟩
  exact index_lt_size_of_node? parentFound

theorem child_lt_size (wellFormed : document.WellFormed)
    (found : document.node? id = some node) (listed : child ∈ node.children) :
    child.index < document.size := by
  rcases wellFormed.childLinked found listed with ⟨childNode, childFound, _⟩
  exact index_lt_size_of_node? childFound

end WellFormed

/-- The root is the only one of its kind and has no parent. Names stored in nodes are names of
nodes, the two directions of every link agree, and texts have no children. Whatever is called
later, no node changes what it holds, loses its parent, or has children removed or reordered. -/
theorem nodes_linked_and_permanent (constructed : document.Constructed) :
    (∃ node, document.node? .root = some node ∧ node.content = .root ∧ node.parent = none) ∧
    (∀ id node, document.node? id = some node → node.content = .root → id = .root) ∧
    (∀ id node, document.node? id = some node →
      (∀ parent, node.parent = some parent → parent.index < document.size) ∧
      (∀ child ∈ node.children, child.index < document.size) ∧
      (∀ child, node.children.count child =
        if document.parent? child = some id then 1 else 0) ∧
      (node.content.isText = true → node.children = [])) ∧
    (∀ calls : List DocumentCall, document.Grows (calls.foldl perform document)) := by
  have wellFormed := constructed.wellFormed
  refine ⟨?_, ?_, ?_, Grows.performAll document⟩
  · rcases wellFormed.rootNode with ⟨node, found, detached, isRoot⟩
    exact ⟨node, found, isRoot, detached⟩
  · intro id node found isRoot
    exact wellFormed.eq_root found isRoot
  · intro id node found
    refine ⟨?_, ?_, wellFormed.count_children found, wellFormed.textChildless found⟩
    · intro parent hasParent
      exact wellFormed.parent_lt_size found hasParent
    · intro child listed
      exact wellFormed.child_lt_size found listed

/-- An element that is its own parent. -/
def selfAttached : Document :=
  [.createElement ⟨"a", []⟩, .attach ⟨1⟩ ⟨1⟩].foldl perform empty

theorem selfAttached_constructed : selfAttached.Constructed := Constructed.empty.performAll _

theorem selfAttached_listed_once :
    ∃ node, selfAttached.node? ⟨1⟩ = some node ∧ node.parent = some ⟨1⟩ ∧
      node.children.count ⟨1⟩ = 1 ∧
      ∀ calls : List DocumentCall, selfAttached.Grows (calls.foldl perform selfAttached) := by
  rcases nodes_linked_and_permanent selfAttached_constructed with ⟨_, _, nodes, grows⟩
  refine ⟨⟨some ⟨1⟩, [⟨1⟩], .element ⟨"a", []⟩⟩, rfl, rfl, ?_, grows⟩
  exact (nodes ⟨1⟩ _ rfl).2.2.1 ⟨1⟩

end Document
end AccessAudit
