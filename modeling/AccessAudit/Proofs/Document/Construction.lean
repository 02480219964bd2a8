import AccessAudit.Markup.Document
import Mathlib.Logic.Relation

/-!
# Documents under construction

This file says which documents can come about, and proves the invariant of all of them.

A document is built from the empty one, or from that of a single element, by calls that create
and attach nodes. The calls take any names whatever, and one that fails is a call as well. Two
changes are behind all of them (`Document.Change`): creating a detached node, and linking two
nodes that pass the checks of `Document.attach`. A property of all documents is therefore proved
once for each change.

The invariant `Document.WellFormed` says that the two directions of a link agree and that the
root is nobody's child. It does not say that parents form no cycle, for detached nodes may.
-/

namespace AccessAudit

/-- A call that changes a document. -/
inductive DocumentCall where
  | createElement (element : Element)
  | createText (text : String)
  | attach (parent child : NodeId)
  | appendElement (parent : NodeId) (element : Element)

namespace Document

variable {document : Document} {parent child : NodeId}

/-- The document after a call. Attaching leaves it as it is where it fails. -/
def perform (document : Document) : DocumentCall → Document
  | .createElement element => (document.createElement element).1
  | .createText text => (document.createText text).1
  | .attach parent child =>
      match document.attach parent child with
      | .ok attached => attached
      | .error _ => document
  | .appendElement parent element => (document.appendElement parent element).1

/-- The documents that finitely many calls build. -/
inductive Constructed : Document → Prop where
  | empty : Constructed empty
  | ofElement (element : Element) : Constructed (ofElement element)
  | perform {document : Document} (constructed : Constructed document) (call : DocumentCall) :
      Constructed (document.perform call)

theorem Constructed.performAll (constructed : document.Constructed) (calls : List DocumentCall) :
    (calls.foldl Document.perform document).Constructed := by
  induction calls generalizing document with
  | nil => exact constructed
  | cons call calls ih => exact ih (constructed.perform call)

/-- What `attach` checks of the two nodes. -/
structure Attachable (document : Document) (parent child : NodeId) : Prop where
  container : ∃ node, document.node? parent = some node ∧ node.content.isText = false
  detached : ∃ node, document.node? child = some node ∧ node.parent = none
  child_ne_root : child ≠ NodeId.root

/-- Attaching succeeds exactly on nodes that pass its checks, and then links them. -/
theorem attach_eq_ok_iff {attached : Document} :
    document.attach parent child = .ok attached ↔
      document.Attachable parent child ∧ attached = document.link parent child := by
  constructor
  · intro succeeds
    unfold attach at succeeds
    split at succeeds
    · cases succeeds
    · rename_i parentNode parentFound
      split at succeeds
      · cases succeeds
      · rename_i notText
        split at succeeds
        · cases succeeds
        · rename_i childNode childFound
          split at succeeds
          · cases succeeds
          · rename_i free
            simp only [Bool.or_eq_true, decide_eq_true_eq, not_or, Bool.not_eq_true,
              Option.isSome_eq_false_iff, Option.isNone_iff_eq_none] at free
            refine ⟨⟨⟨parentNode, parentFound, ?_⟩, ⟨childNode, childFound, free.2⟩, free.1⟩, ?_⟩
            · simpa using notText
            · exact (Except.ok.inj succeeds).symm
  · rintro ⟨⟨⟨parentNode, parentFound, notText⟩, ⟨childNode, childFound, free⟩, notRoot⟩, rfl⟩
    simp [attach, parentFound, notText, childFound, free, notRoot]

/-- The changes that calls are made of. -/
inductive Change : Document → Document → Prop where
  | create (document : Document) {content : NodeContent} (notRoot : content ≠ .root) :
      Change document (document.create content).1
  | link {document : Document} {parent child : NodeId}
      (attachable : document.Attachable parent child) :
      Change document (document.link parent child)

theorem perform_attach_changes :
    Relation.ReflTransGen Change document (document.perform (.attach parent child)) := by
  simp only [perform]
  split
  · rename_i attached succeeds
    rcases attach_eq_ok_iff.mp succeeds with ⟨attachable, rfl⟩
    exact .single (.link attachable)
  · exact .refl

theorem perform_appendElement (element : Element) :
    document.perform (.appendElement parent element) =
      (document.createElement element).1.perform (.attach parent ⟨document.size⟩) := by
  simp only [perform, appendElement, createElement, create]
  generalize attach _ parent ⟨document.size⟩ = result
  cases result <;> rfl

/-- Every call is made of changes; one that fails makes none, or only creates a node. -/
theorem perform_changes (document : Document) (call : DocumentCall) :
    Relation.ReflTransGen Change document (document.perform call) := by
  cases call with
  | createElement element => exact .single (.create document (by simp))
  | createText text => exact .single (.create document (by simp))
  | attach parent child => exact perform_attach_changes
  | appendElement parent element =>
      rw [perform_appendElement]
      exact .head (.create document (by simp)) perform_attach_changes

theorem ofElement_changes (element : Element) :
    Relation.ReflTransGen Change empty (ofElement element) := by
  have attachable : (empty.create (.element element)).1.Attachable .root ⟨empty.size⟩ := by
    refine ⟨⟨_, rfl, rfl⟩, ⟨_, rfl, rfl⟩, ?_⟩
    simp [empty, size, NodeId.root]
  exact .tail (.single (.create empty (by simp))) (.link attachable)

/-- A property of the empty document that every change keeps is one of all documents. -/
theorem Constructed.of_changes {motive : Document → Prop} (empty : motive Document.empty)
    (change : ∀ {before after : Document}, Change before after → motive before → motive after)
    (constructed : Constructed document) : motive document := by
  have keeps : ∀ {before after : Document},
      Relation.ReflTransGen Change before after → motive before → motive after := by
    intro before after changes holds
    induction changes with
    | refl => exact holds
    | tail _ step ih => exact change step ih
  induction constructed with
  | empty => exact empty
  | ofElement element => exact keeps (ofElement_changes element) empty
  | perform _ call ih => exact keeps (perform_changes _ call) ih

/-- The two directions of every link agree, and the root is nobody's child. -/
structure WellFormed (document : Document) : Prop where
  rootNode : ∃ node, document.node? .root = some node ∧ node.parent = none ∧ node.content = .root
  /-- No other node is a root. -/
  eq_root : ∀ {id : NodeId} {node : Node},
    document.node? id = some node → node.content = .root → id = .root
  childLinked : ∀ {id child : NodeId} {node : Node}, document.node? id = some node →
    child ∈ node.children → ∃ childNode, document.node? child = some childNode ∧
      childNode.parent = some id
  parentLinked : ∀ {id parent : NodeId} {node : Node}, document.node? id = some node →
    node.parent = some parent → ∃ parentNode, document.node? parent = some parentNode ∧
      id ∈ parentNode.children
  childrenNodup : ∀ {id : NodeId} {node : Node},
    document.node? id = some node → node.children.Nodup
  textChildless : ∀ {id : NodeId} {node : Node},
    document.node? id = some node → node.content.isText = true → node.children = []

theorem index_lt_size_of_node? {id : NodeId} {node : Node}
    (found : document.node? id = some node) : id.index < document.size := by
  rcases Array.getElem?_eq_some_iff.mp found with ⟨bound, _⟩
  exact bound

theorem node?_create_cases {content : NodeContent} {id : NodeId} {node : Node}
    (found : (document.create content).1.node? id = some node) :
    (id = ⟨document.size⟩ ∧ node = ⟨none, [], content⟩) ∨ document.node? id = some node := by
  rw [node?_create] at found
  split at found
  · rename_i isNew
    exact Or.inl ⟨NodeId.ext isNew, (Option.some.inj found).symm⟩
  · exact Or.inr found

theorem node?_create_of_node? {content : NodeContent} {id : NodeId} {node : Node}
    (found : document.node? id = some node) :
    (document.create content).1.node? id = some node := by
  have bound := index_lt_size_of_node? found
  rw [node?_create, if_neg (by omega)]
  exact found

theorem node?_link_cases {id : NodeId} {node : Node}
    (found : (document.link parent child).node? id = some node) :
    ∃ before, document.node? id = some before ∧ node.content = before.content ∧
      node.parent = (if id = child then some parent else before.parent) ∧
      node.children = if id = parent then before.children ++ [child] else before.children := by
  rw [node?_link] at found
  rcases Option.map_eq_some_iff.mp found with ⟨before, foundBefore, rfl⟩
  exact ⟨before, foundBefore, rfl, rfl, rfl⟩

theorem node?_link_of_node? (parent child : NodeId) {id : NodeId} {node : Node}
    (found : document.node? id = some node) :
    ∃ after, (document.link parent child).node? id = some after ∧ after.content = node.content ∧
      after.parent = (if id = child then some parent else node.parent) ∧
      after.children = if id = parent then node.children ++ [child] else node.children := by
  rw [node?_link, found]
  exact ⟨_, rfl, rfl, rfl, rfl⟩

theorem mem_linked_children {id other : NodeId} {children : List NodeId} :
    (other ∈ if id = parent then children ++ [child] else children) ↔
      other ∈ children ∨ (id = parent ∧ other = child) := by
  split <;> simp_all

namespace WellFormed

theorem of_empty : WellFormed empty := by
  have only : ∀ {id : NodeId} {node : Node}, empty.node? id = some node →
      id = .root ∧ node = ⟨none, [], .root⟩ := by
    intro id node found
    have bound : id.index < 1 := index_lt_size_of_node? found
    have isRoot : id = .root := NodeId.ext (by simp only [NodeId.root]; omega)
    subst isRoot
    exact ⟨rfl, (Option.some.inj found).symm⟩
  refine ⟨⟨_, rfl, rfl, rfl⟩, ?_, ?_, ?_, ?_, ?_⟩
  · intro id node found _
    exact (only found).1
  · intro id child node found member
    rcases only found with ⟨rfl, rfl⟩
    cases member
  · intro id parent node found hasParent
    rcases only found with ⟨rfl, rfl⟩
    cases hasParent
  · intro id node found
    rcases only found with ⟨rfl, rfl⟩
    exact List.nodup_nil
  · intro id node found _
    rcases only found with ⟨rfl, rfl⟩
    rfl

theorem create (wellFormed : document.WellFormed) {content : NodeContent}
    (notRoot : content ≠ .root) : (document.create content).1.WellFormed := by
  refine ⟨?_, ?_, ?_, ?_, ?_, ?_⟩
  · rcases wellFormed.rootNode with ⟨node, found, detached, isRoot⟩
    exact ⟨node, node?_create_of_node? found, detached, isRoot⟩
  · intro id node found isRoot
    rcases node?_create_cases found with ⟨rfl, rfl⟩ | before
    · exact absurd isRoot notRoot
    · exact wellFormed.eq_root before isRoot
  · intro id child node found member
    rcases node?_create_cases found with ⟨rfl, rfl⟩ | before
    · cases member
    · rcases wellFormed.childLinked before member with ⟨childNode, childFound, linked⟩
      exact ⟨childNode, node?_create_of_node? childFound, linked⟩
  · intro id parent node found hasParent
    rcases node?_create_cases found with ⟨rfl, rfl⟩ | before
    · cases hasParent
    · rcases wellFormed.parentLinked before hasParent with ⟨parentNode, parentFound, linked⟩
      exact ⟨parentNode, node?_create_of_node? parentFound, linked⟩
  · intro id node found
    rcases node?_create_cases found with ⟨rfl, rfl⟩ | before
    · exact List.nodup_nil
    · exact wellFormed.childrenNodup before
  · intro id node found isText
    rcases node?_create_cases found with ⟨rfl, rfl⟩ | before
    · rfl
    · exact wellFormed.textChildless before isText

theorem not_mem_children_of_detached (wellFormed : document.WellFormed) {id : NodeId} {node : Node}
    (detached : ∃ childNode, document.node? child = some childNode ∧ childNode.parent = none)
    (found : document.node? id = some node) : child ∉ node.children := by
  intro member
  rcases detached with ⟨childNode, childFound, free⟩
  rcases wellFormed.childLinked found member with ⟨linkedNode, linkedFound, linked⟩
  rw [childFound] at linkedFound
  cases linkedFound
  rw [free] at linked
  cases linked

theorem link (wellFormed : document.WellFormed) (attachable : document.Attachable parent child) :
    (document.link parent child).WellFormed := by
  have childFree : ∀ {id : NodeId} {node : Node},
      document.node? id = some node → child ∉ node.children :=
    wellFormed.not_mem_children_of_detached attachable.detached
  refine ⟨?_, ?_, ?_, ?_, ?_, ?_⟩
  · rcases wellFormed.rootNode with ⟨node, found, detached, isRoot⟩
    rcases node?_link_of_node? parent child found with ⟨after, foundAfter, content, parentLink, _⟩
    rw [if_neg attachable.child_ne_root.symm] at parentLink
    exact ⟨after, foundAfter, parentLink.trans detached, content.trans isRoot⟩
  · intro id node found isRoot
    rcases node?_link_cases found with ⟨before, foundBefore, content, _, _⟩
    exact wellFormed.eq_root foundBefore (content.symm.trans isRoot)
  · intro id other node found member
    rcases node?_link_cases found with ⟨before, foundBefore, _, _, children⟩
    rw [children] at member
    rcases mem_linked_children.mp member with inBefore | ⟨rfl, rfl⟩
    · rcases wellFormed.childLinked foundBefore inBefore with ⟨otherNode, otherFound, linked⟩
      rcases node?_link_of_node? parent child otherFound with ⟨after, foundAfter, _, parentLink, _⟩
      have notChild : other ≠ child := by
        rintro rfl
        exact childFree foundBefore inBefore
      rw [if_neg notChild] at parentLink
      exact ⟨after, foundAfter, parentLink.trans linked⟩
    · rcases attachable.detached with ⟨childNode, childFound, _⟩
      rcases node?_link_of_node? id other childFound with ⟨after, foundAfter, _, parentLink, _⟩
      rw [if_pos rfl] at parentLink
      exact ⟨after, foundAfter, parentLink⟩
  · intro id above node found hasParent
    rcases node?_link_cases found with ⟨before, foundBefore, _, parentLink, _⟩
    rw [hasParent] at parentLink
    split at parentLink
    · rename_i isChild
      subst isChild
      cases parentLink
      rcases attachable.container with ⟨parentNode, parentFound, _⟩
      rcases node?_link_of_node? parent id parentFound with ⟨after, foundAfter, _, _, children⟩
      refine ⟨after, foundAfter, ?_⟩
      rw [children]
      exact mem_linked_children.mpr (Or.inr ⟨rfl, rfl⟩)
    · rcases wellFormed.parentLinked foundBefore parentLink.symm with
        ⟨parentNode, parentFound, linked⟩
      rcases node?_link_of_node? parent child parentFound with ⟨after, foundAfter, _, _, children⟩
      refine ⟨after, foundAfter, ?_⟩
      rw [children]
      exact mem_linked_children.mpr (Or.inl linked)
  · intro id node found
    rcases node?_link_cases found with ⟨before, foundBefore, _, _, children⟩
    have nodupBefore := wellFormed.childrenNodup foundBefore
    rw [children]
    split
    · refine List.nodup_append.mpr ⟨nodupBefore, by simp, ?_⟩
      intro other inBefore last isLast
      rw [List.mem_singleton.mp isLast]
      rintro rfl
      exact childFree foundBefore inBefore
    · exact nodupBefore
  · intro id node found isText
    rcases node?_link_cases found with ⟨before, foundBefore, content, _, children⟩
    rw [content] at isText
    have notParent : id ≠ parent := by
      rintro rfl
      rcases attachable.container with ⟨parentNode, parentFound, notText⟩
      rw [foundBefore] at parentFound
      cases parentFound
      rw [notText] at isText
      cases isText
    rw [children, if_neg notParent]
    exact wellFormed.textChildless foundBefore isText

theorem change {before after : Document} (change : Change before after)
    (wellFormed : before.WellFormed) : after.WellFormed := by
  cases change with
  | create notRoot => exact wellFormed.create notRoot
  | link attachable => exact wellFormed.link attachable

end WellFormed

theorem Constructed.wellFormed (constructed : document.Constructed) : document.WellFormed :=
  constructed.of_changes WellFormed.of_empty WellFormed.change

end Document
end AccessAudit
