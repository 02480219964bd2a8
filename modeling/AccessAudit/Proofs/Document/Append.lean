import AccessAudit.Proofs.Document.Construction

/-!
# Creating and attaching in one call

This file proves what `Document.appendElement` does, for every document and every name given for
the parent.

The element is created before the parent is looked at. Two things follow. Where the parent is
missing or a text, the call fails, yet the document has one more node, which is detached. And the
name that the new node is about to get is a good name for a parent by the time it is looked up: the
call then succeeds, and the new element is attached to itself. Only a parent that has been there
before, and may have children, gives what one would expect.
-/

namespace AccessAudit
namespace Document

variable {document : Document} {id parent : NodeId} {element : Element}

/-- The node is there and may have children. -/
def IsContainer (document : Document) (id : NodeId) : Prop :=
  ∃ node, document.node? id = some node ∧ node.content.isText = false

/-- The name of the node that is created next. -/
def nextId (document : Document) : NodeId := ⟨document.size⟩

/-- The second document is the first one with one more node. -/
structure AddsNode (before : Document) (created : Node) (after : Document) : Prop where
  size : after.size = before.size + 1
  created : after.node? before.nextId = some created
  unchanged : ∀ id, id ≠ before.nextId → after.node? id = before.node? id

/-- The second document is the first one with one more element, the last child of a node that was
there before. -/
structure AddsChild (before : Document) (parent : NodeId) (element : Element) (after : Document) :
    Prop where
  size : after.size = before.size + 1
  created : after.node? before.nextId = some ⟨some parent, [], .element element⟩
  listed : ∃ node, before.node? parent = some node ∧
    after.node? parent = some { node with children := node.children ++ [before.nextId] }
  unchanged : ∀ id, id ≠ before.nextId → id ≠ parent → after.node? id = before.node? id

theorem node?_nextId (document : Document) : document.node? document.nextId = none := by
  simp [node?, nextId, size]

theorem ne_nextId_of_node? {node : Node} (found : document.node? id = some node) :
    id ≠ document.nextId := by
  rintro rfl
  simp [node?_nextId] at found

theorem IsContainer.ne_nextId (container : document.IsContainer parent) :
    parent ≠ document.nextId := by
  rcases container with ⟨node, found, _⟩
  exact ne_nextId_of_node? found

theorem Constructed.nextId_ne_root (constructed : document.Constructed) :
    document.nextId ≠ .root := by
  rcases constructed.wellFormed.rootNode with ⟨node, found, _⟩
  exact (ne_nextId_of_node? found).symm

theorem addsNode_createElement (document : Document) (element : Element) :
    document.AddsNode ⟨none, [], .element element⟩ (document.createElement element).1 := by
  refine ⟨by simp [createElement], ?_, ?_⟩
  · simp [createElement, node?_create, nextId]
  · intro id different
    have notNew : id.index ≠ document.size := fun same => different (NodeId.ext same)
    simp [createElement, node?_create, notNew]

/-- The node that has just been created can be attached to any container, itself among them. -/
theorem attachable_created_iff (constructed : document.Constructed) :
    (document.createElement element).1.Attachable parent document.nextId ↔
      document.IsContainer parent ∨ parent = document.nextId := by
  have adds := addsNode_createElement document element
  constructor
  · intro attachable
    rcases attachable.container with ⟨node, found, notText⟩
    by_cases isNew : parent = document.nextId
    · exact .inr isNew
    · rw [adds.unchanged parent isNew] at found
      exact .inl ⟨node, found, notText⟩
  · intro suitable
    refine ⟨?_, ⟨_, adds.created, rfl⟩, constructed.nextId_ne_root⟩
    rcases suitable with container | rfl
    · rcases container with ⟨node, found, notText⟩
      refine ⟨node, ?_, notText⟩
      rw [adds.unchanged parent (ne_nextId_of_node? found)]
      exact found
    · exact ⟨_, adds.created, rfl⟩

theorem appendElement_of_attachable
    (attachable : (document.createElement element).1.Attachable parent document.nextId) :
    document.appendElement parent element =
      ((document.createElement element).1.link parent document.nextId, .ok document.nextId) := by
  have succeeds := attach_eq_ok_iff.mpr ⟨attachable, rfl⟩
  simp only [createElement, create, nextId] at succeeds ⊢
  simp only [appendElement, createElement, create, succeeds]

theorem addsChild_link (container : document.IsContainer parent) :
    document.AddsChild parent element
      ((document.createElement element).1.link parent document.nextId) := by
  have adds := addsNode_createElement document element
  have notNew := container.ne_nextId
  refine ⟨by simp [adds.size], ?_, ?_, ?_⟩
  · simp [node?_link, adds.created, notNew.symm]
  · rcases container with ⟨node, found, _⟩
    exact ⟨node, found, by simp [node?_link, adds.unchanged parent notNew, found, notNew]⟩
  · intro id different notParent
    simp [node?_link, adds.unchanged id different, different, notParent]

theorem addsNode_link_nextId (document : Document) (element : Element) :
    document.AddsNode ⟨some document.nextId, [document.nextId], .element element⟩
      ((document.createElement element).1.link document.nextId document.nextId) := by
  have adds := addsNode_createElement document element
  refine ⟨by simp [adds.size], by simp [node?_link, adds.created], ?_⟩
  intro id different
  simp [node?_link, adds.unchanged id different, different]

/-- The error of a call with this name for the parent. -/
def parentFault (document : Document) (parent : NodeId) : AttachError :=
  if (document.node? parent).isSome then .notAContainer parent else .missingNode parent

theorem appendElement_of_not_isContainer (notContainer : ¬document.IsContainer parent)
    (notNew : parent ≠ document.nextId) :
    document.appendElement parent element =
      ((document.createElement element).1, .error (document.parentFault parent)) := by
  have same := (addsNode_createElement document element).unchanged parent notNew
  have fails : (document.createElement element).1.attach parent document.nextId =
      .error (document.parentFault parent) := by
    rw [attach, same, parentFault]
    cases found : document.node? parent with
    | none => rfl
    | some node =>
        have isText : node.content.isText = true := by
          rw [← Bool.not_eq_false]
          intro notText
          exact notContainer ⟨node, found, notText⟩
        simp [isText]
  simp only [createElement, create, nextId] at fails ⊢
  simp only [appendElement, createElement, create, fails]

/-- A call succeeds if the parent is a container that was there before, and then adds the element
as its last child. It also succeeds if the parent is the node that is created by it, which is then
its own parent and child. Otherwise it fails, and the element is left in the document, detached.
Nothing else changes in any of the three cases. -/
theorem appendElement_outcome (constructed : document.Constructed) (parent : NodeId)
    (element : Element) :
    let after := (document.appendElement parent element).1
    let result := (document.appendElement parent element).2
    (∀ id, result = .ok id ↔
      id = document.nextId ∧ (document.IsContainer parent ∨ parent = document.nextId)) ∧
    (document.IsContainer parent → document.AddsChild parent element after) ∧
    (parent = document.nextId → document.AddsNode
      ⟨some document.nextId, [document.nextId], .element element⟩ after) ∧
    (¬document.IsContainer parent → parent ≠ document.nextId →
      result = .error (document.parentFault parent) ∧
      document.AddsNode ⟨none, [], .element element⟩ after) := by
  intro after result
  have succeeds : document.IsContainer parent ∨ parent = document.nextId →
      document.appendElement parent element =
        ((document.createElement element).1.link parent document.nextId,
          .ok document.nextId) := by
    intro suitable
    exact appendElement_of_attachable ((attachable_created_iff constructed).mpr suitable)
  refine ⟨?_, ?_, ?_, ?_⟩
  · intro id
    by_cases suitable : document.IsContainer parent ∨ parent = document.nextId
    · simp [result, succeeds suitable, suitable, eq_comm]
    · have unsuitable := suitable
      rw [not_or] at unsuitable
      simp [result, appendElement_of_not_isContainer unsuitable.1 unsuitable.2, suitable]
  · intro container
    simp only [after, succeeds (.inl container)]
    exact addsChild_link container
  · rintro rfl
    simp only [after, succeeds (.inr rfl)]
    exact addsNode_link_nextId document element
  · intro notContainer notNew
    simp only [after, result, appendElement_of_not_isContainer notContainer notNew, true_and]
    exact addsNode_createElement document element

theorem appendElement_outcome_root :
    (empty.appendElement .root ⟨"p", []⟩).2 = .ok ⟨1⟩ ∧
      empty.AddsChild .root ⟨"p", []⟩ (empty.appendElement .root ⟨"p", []⟩).1 := by
  have container : empty.IsContainer .root := ⟨_, rfl, rfl⟩
  have ⟨succeeds, adds, _⟩ := appendElement_outcome .empty .root ⟨"p", []⟩
  exact ⟨(succeeds _).mpr ⟨rfl, .inl container⟩, adds container⟩

/-- A call that fails leaves one more node behind, and a call may succeed though its parent was not
there. -/
theorem appendElement_not_all_or_nothing :
    (empty.appendElement ⟨5⟩ ⟨"p", []⟩).2 = .error (.missingNode ⟨5⟩) ∧
      (empty.appendElement ⟨5⟩ ⟨"p", []⟩).1.size ≠ empty.size ∧
      empty.node? ⟨1⟩ = none ∧
      (empty.appendElement ⟨1⟩ ⟨"p", []⟩).2 = .ok ⟨1⟩ ∧
      (empty.appendElement ⟨1⟩ ⟨"p", []⟩).1.node? ⟨1⟩ =
        some ⟨some ⟨1⟩, [⟨1⟩], .element ⟨"p", []⟩⟩ :=
  ⟨rfl, by decide, rfl, rfl, rfl⟩

end Document
end AccessAudit
