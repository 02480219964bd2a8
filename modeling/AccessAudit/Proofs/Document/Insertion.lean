import AccessAudit.Lint.Linter
import AccessAudit.Proofs.Document.Order

/-!
# What a call does to the elements

This file proves how calls change what `Document.elements` lists, and so what a linter sees.

An order of nodes hangs on the children of the nodes in it and on nothing else
(`Document.Preorder.transfer`). Attaching changes the children of the parent only. An order without
the parent stays as it is. In an order that has the parent, once, what is below the new child comes
right after what was below the parent so far.

Detached nodes may lie on cycles, yet the child that is attached below the root never does: in the
new document it is attached itself, and there nothing attached is below itself.
-/

namespace AccessAudit
namespace Document

variable {document first second : Document} {id other parent child : NodeId}

/-- The elements at and below a node, in document order. -/
def ElementsBelow (document : Document) (id : NodeId) (elements : List (NodeId × Element)) : Prop :=
  ∃ order, document.Preorder [id] order ∧ elements = order.filterMap document.listed?

/-- The call does not do what it is for. Creating a node never fails. -/
def Fails (document : Document) : DocumentCall → Prop
  | .attach parent child => ∃ cause, document.attach parent child = .error cause
  | .appendElement parent element =>
      ∃ cause, (document.appendElement parent element).2 = .error cause
  | .createElement _ | .createText _ => False

/-- The call does nothing but create a node. -/
def Creates : DocumentCall → Prop
  | .createElement _ | .createText _ => True
  | .attach _ _ | .appendElement _ _ => False

/-- The documents list the same elements, so that no linter tells them apart. -/
structure LooksLike (before after : Document) : Prop where
  elements : after.elements = before.elements
  lint : ∀ linter : Linter, linter.lint after = linter.lint before

def children? (document : Document) (id : NodeId) : Option (List NodeId) :=
  (document.node? id).map Node.children

theorem children?_link_of_ne (different : id ≠ parent) :
    (document.link parent child).children? id = document.children? id := by
  simp [children?, node?_link, different, Function.comp_def]

theorem listed?_link : (document.link parent child).listed? = document.listed? := by
  funext id
  simp only [listed?, element?, node?_link, Option.bind_map]
  rfl

theorem IsChild.link (parent child : NodeId) (isChild : document.IsChild id other) :
    (document.link parent child).IsChild id other := by
  rcases isChild with ⟨node, found, listed⟩
  rcases node?_link_of_node? parent child found with ⟨after, foundAfter, _, _, children⟩
  refine ⟨after, foundAfter, ?_⟩
  rw [children]
  exact mem_linked_children.mpr (.inl listed)

theorem Attachable.isChild_link (attachable : document.Attachable parent child) :
    (document.link parent child).IsChild parent child := by
  rcases attachable.container with ⟨node, found, _⟩
  rcases node?_link_of_node? parent child found with ⟨after, foundAfter, _, _, children⟩
  refine ⟨after, foundAfter, ?_⟩
  rw [children]
  exact mem_linked_children.mpr (.inr ⟨rfl, rfl⟩)

namespace Preorder

variable {pending order later laterOrder added : List NodeId}

theorem transfer (ordered : first.Preorder pending order)
    (same : ∀ id ∈ order, second.children? id = first.children? id) :
    second.Preorder pending order := by
  induction ordered with
  | nil => exact nil
  | @cons id node pending below after found _ _ ihChildren ihSiblings =>
      have children : second.children? id = some node.children := by
        rw [same id (by simp), children?, found]
        rfl
      rcases Option.map_eq_some_iff.mp children with ⟨moved, foundMoved, sameChildren⟩
      refine cons foundMoved ?_ (ihSiblings fun other member => same other (by simp [member]))
      rw [sameChildren]
      exact ihChildren fun other member => same other (by simp [member])

theorem unique {others : List NodeId} (ordered : document.Preorder pending order)
    (alsoOrdered : document.Preorder pending others) : order = others := by
  induction ordered generalizing others with
  | nil =>
      cases alsoOrdered
      rfl
  | cons found _ _ ihChildren ihSiblings =>
      cases alsoOrdered with
      | cons alsoFound children siblings =>
          rw [found] at alsoFound
          cases alsoFound
          rw [ihChildren children, ihSiblings siblings]

theorem elementsBelow_iff (ordered : document.Preorder [id] order)
    {elements : List (NodeId × Element)} :
    document.ElementsBelow id elements ↔ elements = order.filterMap document.listed? := by
  constructor
  · rintro ⟨others, alsoOrdered, rfl⟩
    rw [ordered.unique alsoOrdered]
  · intro same
    exact ⟨order, ordered, same⟩

theorem link_of_not_mem (ordered : document.Preorder pending order) (child : NodeId)
    (without : parent ∉ order) : (document.link parent child).Preorder pending order :=
  ordered.transfer fun _ member => children?_link_of_ne (ne_of_mem_of_not_mem member without)

theorem of_link_of_not_mem (ordered : (document.link parent child).Preorder pending order)
    (without : parent ∉ order) : document.Preorder pending order :=
  ordered.transfer fun _ member => (children?_link_of_ne (ne_of_mem_of_not_mem member without)).symm

theorem append (ordered : document.Preorder pending order)
    (orderedLater : document.Preorder later laterOrder) :
    document.Preorder (pending ++ later) (order ++ laterOrder) := by
  induction ordered with
  | nil => exact orderedLater
  | cons found children _ _ ih => simpa using cons found children ih

/-- What is below the new child comes after what was below the parent. -/
theorem insert (ordered : document.Preorder pending order) (nodup : order.Nodup)
    (inOrder : parent ∈ order) (addition : (document.link parent child).Preorder [child] added) :
    ∃ earlier block later, order = earlier ++ block ++ later ∧ document.Preorder [parent] block ∧
      (document.link parent child).Preorder pending (earlier ++ block ++ added ++ later) := by
  induction ordered with
  | nil => cases inOrder
  | @cons id node pending below after found children siblings ihChildren ihSiblings =>
      rcases List.nodup_cons.mp nodup with ⟨idOnce, restNodup⟩
      rcases List.nodup_append'.mp restNodup with ⟨belowNodup, afterNodup, apart⟩
      rw [List.mem_append, not_or] at idOnce
      rcases node?_link_of_node? parent child found with ⟨linked, foundLinked, _, _, linkedChildren⟩
      by_cases isParent : id = parent
      · subst isParent
        refine ⟨[], id :: below, after, by simp, by simpa using cons found children nil, ?_⟩
        have longer : (document.link id child).Preorder linked.children (below ++ added) := by
          rw [linkedChildren, if_pos rfl]
          exact (children.link_of_not_mem child idOnce.1).append addition
        simpa using cons foundLinked longer (siblings.link_of_not_mem child idOnce.2)
      · rw [if_neg isParent] at linkedChildren
        have inRest : parent ∈ below ∨ parent ∈ after := by
          simpa [Ne.symm isParent] using inOrder
        rcases inRest with inBelow | inAfter
        · have notAfter : parent ∉ after := apart inBelow
          rcases ihChildren belowNodup inBelow with ⟨earlier, block, later, rfl, ofParent, inserted⟩
          refine ⟨id :: earlier, block, later ++ after, by simp, ofParent, ?_⟩
          rw [← linkedChildren] at inserted
          simpa using cons foundLinked inserted (siblings.link_of_not_mem child notAfter)
        · have notBelow : parent ∉ below := fun inBelow => apart inBelow inAfter
          rcases ihSiblings afterNodup inAfter with ⟨earlier, block, later, rfl, ofParent, inserted⟩
          have unchanged := children.link_of_not_mem child notBelow
          refine ⟨id :: (below ++ earlier), block, later, by simp, ofParent, ?_⟩
          rw [← linkedChildren] at unchanged
          simpa using cons foundLinked unchanged inserted

end Preorder

namespace WellFormed

variable {content : NodeContent}

/-- What is below a node that gets attached below the root is in an order, before and after. -/
theorem exists_preorder_child (wellFormed : document.WellFormed)
    (attachable : document.Attachable parent child) (attached : document.Attached parent) :
    ∃ added, document.Preorder [child] added ∧
      (document.link parent child).Preorder [child] added := by
  have linkedWellFormed := wellFormed.link attachable
  have parentAttached : (document.link parent child).Attached parent :=
    Relation.ReflTransGen.mono (fun _ _ => IsChild.link parent child) _ _ attached
  have newStep := attachable.isChild_link
  rcases Preorder.of_attached linkedWellFormed (parentAttached.tail newStep) with ⟨added, ordered⟩
  have without : parent ∉ added := by
    intro member
    rcases ordered.mem_iff.mp member with ⟨start, isChild, back⟩
    rw [List.mem_singleton.mp isChild] at back
    exact linkedWellFormed.acyclic parentAttached (Relation.TransGen.head' newStep back)
  exact ⟨added, ordered.of_link_of_not_mem without, ordered⟩

/-- Attaching below the root inserts one block of elements. -/
theorem elements_link_of_attached (wellFormed : document.WellFormed)
    (attachable : document.Attachable parent child) (attached : document.Attached parent) :
    ∃ block added, (∀ elements, document.ElementsBelow parent elements ↔ elements = block) ∧
      (∀ elements, document.ElementsBelow child elements ↔ elements = added) ∧
      ∃ earlier later, document.elements = earlier ++ block ++ later ∧
        (document.link parent child).elements = earlier ++ block ++ added ++ later := by
  rcases Preorder.of_attached wellFormed Relation.ReflTransGen.refl with ⟨order, ordered⟩
  rcases wellFormed.exists_preorder_child attachable attached with ⟨added, before, after⟩
  have inOrder : parent ∈ order := ordered.mem_iff_attached.mpr attached
  rcases ordered.insert (ordered.nodup_of_root wellFormed) inOrder after with
    ⟨earlier, block, later, rfl, ofParent, inserted⟩
  refine ⟨block.filterMap document.listed?, added.filterMap document.listed?,
    fun _ => ofParent.elementsBelow_iff, fun _ => before.elementsBelow_iff,
    earlier.filterMap document.listed?, later.filterMap document.listed?, ?_, ?_⟩
  · rw [ordered.elements_eq wellFormed]
    simp only [List.filterMap_append]
  · rw [inserted.elements_eq (wellFormed.link attachable), listed?_link]
    simp only [List.filterMap_append]

theorem elements_link_of_not_attached (wellFormed : document.WellFormed)
    (attachable : document.Attachable parent child) (detached : ¬document.Attached parent) :
    (document.link parent child).elements = document.elements := by
  rcases Preorder.of_attached wellFormed Relation.ReflTransGen.refl with ⟨order, ordered⟩
  have without : parent ∉ order := fun member => detached (ordered.mem_iff_attached.mp member)
  have unchanged := ordered.link_of_not_mem child without
  rw [unchanged.elements_eq (wellFormed.link attachable), ordered.elements_eq wellFormed,
    listed?_link]

theorem elements_create (wellFormed : document.WellFormed) (notRoot : content ≠ .root) :
    (document.create content).1.elements = document.elements := by
  rcases Preorder.of_attached wellFormed Relation.ReflTransGen.refl with ⟨order, ordered⟩
  have sameNode : ∀ id ∈ order, (document.create content).1.node? id = document.node? id := by
    intro id member
    rcases wellFormed.exists_node (ordered.mem_iff_attached.mp member) with ⟨node, found⟩
    rw [found]
    exact node?_create_of_node? found
  have unchanged : (document.create content).1.Preorder [.root] order :=
    ordered.transfer fun id member => by rw [children?, sameNode id member, children?]
  rw [unchanged.elements_eq (wellFormed.create notRoot), ordered.elements_eq wellFormed]
  apply List.filterMap_congr
  intro id member
  rw [listed?, element?, sameNode id member, listed?, element?]

end WellFormed

theorem LooksLike.of_elements_eq (same : second.elements = first.elements) :
    first.LooksLike second :=
  ⟨same, fun linter => by rw [Linter.lint, same, Linter.lint]⟩

theorem looksLike_create (wellFormed : document.WellFormed) {content : NodeContent}
    (notRoot : content ≠ .root) : document.LooksLike (document.create content).1 :=
  .of_elements_eq (wellFormed.elements_create notRoot)

theorem looksLike_of_creates (wellFormed : document.WellFormed) {call : DocumentCall}
    (creates : Creates call) : document.LooksLike (document.perform call) := by
  cases call with
  | createElement element => exact looksLike_create wellFormed (by simp)
  | createText text => exact looksLike_create wellFormed (by simp)
  | attach parent child => cases creates
  | appendElement parent element => cases creates

theorem looksLike_of_fails (wellFormed : document.WellFormed) {call : DocumentCall}
    (fails : document.Fails call) : document.LooksLike (document.perform call) := by
  cases call with
  | createElement element => cases fails
  | createText text => cases fails
  | attach parent child =>
      rcases fails with ⟨cause, fails⟩
      simp only [perform, fails]
      exact .of_elements_eq rfl
  | appendElement parent element =>
      rcases fails with ⟨cause, fails⟩
      cases result : (document.createElement element).1.attach parent
          (document.createElement element).2 with
      | ok attached => simp [appendElement, result] at fails
      | error cause =>
          simp only [perform, appendElement, result]
          exact looksLike_create wellFormed (by simp)

/-- A child that is attached below the root brings the elements at and below it, as one block right
after the elements at and below its parent. Attached elsewhere it brings none. Creating a node and
calls that fail change nothing that a linter sees. -/
theorem elements_after_call (constructed : document.Constructed) :
    (∀ parent child attached, document.attach parent child = .ok attached →
      (document.Attached parent →
        ∃ block added, (∀ elements, document.ElementsBelow parent elements ↔ elements = block) ∧
          (∀ elements, document.ElementsBelow child elements ↔ elements = added) ∧
          ∃ earlier later, document.elements = earlier ++ block ++ later ∧
            attached.elements = earlier ++ block ++ added ++ later) ∧
      (¬document.Attached parent → document.LooksLike attached)) ∧
    ∀ call, Creates call ∨ document.Fails call → document.LooksLike (document.perform call) := by
  have wellFormed := constructed.wellFormed
  constructor
  · intro parent child attached succeeds
    rcases attach_eq_ok_iff.mp succeeds with ⟨attachable, rfl⟩
    refine ⟨wellFormed.elements_link_of_attached attachable, ?_⟩
    intro detached
    exact .of_elements_eq (wellFormed.elements_link_of_not_attached attachable detached)
  · rintro call (creates | fails)
    · exact looksLike_of_creates wellFormed creates
    · exact looksLike_of_fails wellFormed fails

/-- A navigation and a main part, and a list that is not attached yet. -/
def outline : Document :=
  [.appendElement .root ⟨"nav", []⟩, .appendElement .root ⟨"main", []⟩,
    .createElement ⟨"ul", []⟩, .appendElement ⟨3⟩ ⟨"li", []⟩].foldl perform empty

theorem elements_after_call_outline :
    ∃ attached, outline.attach ⟨1⟩ ⟨3⟩ = .ok attached ∧
      attached.elements.map Prod.fst = [⟨1⟩, ⟨3⟩, ⟨4⟩, ⟨2⟩] ∧
      ∃ block added, outline.ElementsBelow ⟨1⟩ block ∧ outline.ElementsBelow ⟨3⟩ added ∧
        ∃ earlier later, outline.elements = earlier ++ block ++ later ∧
          attached.elements = earlier ++ block ++ added ++ later := by
  have constructed : outline.Constructed := Constructed.empty.performAll _
  have attachedNav : outline.Attached ⟨1⟩ :=
    .single ⟨⟨none, [⟨1⟩, ⟨2⟩], .root⟩, rfl, by simp⟩
  rcases (elements_after_call constructed).1 ⟨1⟩ ⟨3⟩ _ rfl with ⟨inserts, _⟩
  rcases inserts attachedNav with ⟨block, added, ofNav, ofList, split⟩
  exact ⟨_, rfl, rfl, block, added, (ofNav block).mpr rfl, (ofList added).mpr rfl, split⟩

end Document
end AccessAudit
