import AccessAudit.Proofs.Document.Construction
import Mathlib.Data.Fintype.EquivFin

/-!
# Document order

This file proves that `Document.elements` lists the attached elements in document order.

The order is given by `Document.Preorder`, the recursive definition: a node comes first, then what
is below its children from left to right, then what is below its later siblings. A derivation is
finite, so a node on a cycle of children is in no order.

Attaching checks no ancestry, and detached nodes can be made their own descendants. That this
cannot happen below the root follows from the invariant alone: a cycle through an attached node
would lead back, from parent to parent, to the root, which has no parent. What is below the root
is therefore well-founded and each node of it is met once, which bounds the number of visits.
-/

namespace AccessAudit
namespace Document

variable {document : Document} {id parent other child : NodeId}

/-- The second node is in the list of children of the first one. -/
def IsChild (document : Document) (parent child : NodeId) : Prop :=
  ∃ node, document.node? parent = some node ∧ child ∈ node.children

/-- The node is reachable from the root through lists of children. -/
def Attached (document : Document) (id : NodeId) : Prop :=
  Relation.ReflTransGen document.IsChild NodeId.root id

/-- The nodes at and below a list of nodes, each before its children. -/
inductive Preorder (document : Document) : List NodeId → List NodeId → Prop where
  | nil : Preorder document [] []
  | cons {id : NodeId} {node : Node} {pending below after : List NodeId}
      (found : document.node? id = some node)
      (children : Preorder document node.children below)
      (siblings : Preorder document pending after) :
      Preorder document (id :: pending) (id :: (below ++ after))

/-- There are finitely many nodes, so steps between them that never lead back come to an end. -/
theorem wellFounded_of_acyclic {Present : NodeId → Prop} {Step : NodeId → NodeId → Prop}
    (present : ∀ id, Present id → id.index < document.size)
    (acyclic : ∀ id, Present id → ¬Relation.TransGen Step id id) :
    WellFounded fun later earlier : { id // Present id } =>
      Relation.TransGen Step earlier.1 later.1 := by
  have finite : Finite { id // Present id } := by
    apply Finite.of_injective
      fun node => (⟨node.1.index, present node.1 node.2⟩ : Fin document.size)
    intro left right same
    exact Subtype.ext (NodeId.ext (Fin.mk.inj same))
  have transitive : IsTrans { id // Present id } fun later earlier =>
      Relation.TransGen Step earlier.1 later.1 :=
    ⟨fun _ _ _ first second => second.trans first⟩
  have irreflexive : Std.Irrefl fun later earlier : { id // Present id } =>
      Relation.TransGen Step earlier.1 later.1 :=
    ⟨fun node => acyclic node.1 node.2⟩
  exact Finite.wellFounded_of_trans_of_irrefl _

namespace WellFormed

theorem parent_unique (wellFormed : document.WellFormed) (left : document.IsChild parent child)
    (right : document.IsChild other child) : parent = other := by
  rcases left with ⟨parentNode, parentFound, inParent⟩
  rcases right with ⟨otherNode, otherFound, inOther⟩
  rcases wellFormed.childLinked parentFound inParent with ⟨childNode, childFound, toParent⟩
  rcases wellFormed.childLinked otherFound inOther with ⟨sameNode, sameFound, toOther⟩
  rw [childFound] at sameFound
  cases sameFound
  rw [toParent] at toOther
  exact Option.some.inj toOther

theorem not_isChild_root (wellFormed : document.WellFormed) :
    ¬document.IsChild parent NodeId.root := by
  rintro ⟨parentNode, parentFound, member⟩
  rcases wellFormed.rootNode with ⟨rootNode, rootFound, detached, _⟩
  rcases wellFormed.childLinked parentFound member with ⟨sameNode, sameFound, linked⟩
  rw [rootFound] at sameFound
  cases sameFound
  rw [detached] at linked
  cases linked

/-- No attached node is below itself. -/
theorem acyclic (wellFormed : document.WellFormed) (attached : document.Attached id) :
    ¬Relation.TransGen document.IsChild id id := by
  induction attached with
  | refl =>
      intro cycle
      rcases Relation.TransGen.tail'_iff.mp cycle with ⟨last, _, step⟩
      exact wellFormed.not_isChild_root step
  | @tail upper lower _ step ih =>
      intro cycle
      rcases Relation.TransGen.tail'_iff.mp cycle with ⟨last, upTo, lastStep⟩
      have isUpper := wellFormed.parent_unique lastStep step
      subst isUpper
      exact ih (Relation.TransGen.head' step upTo)

/-- What is below one child of an attached node is not below another. -/
theorem siblings_apart (wellFormed : document.WellFormed) (attached : document.Attached parent)
    {left right : NodeId} (isLeft : document.IsChild parent left)
    (isRight : document.IsChild parent right)
    (belowLeft : Relation.ReflTransGen document.IsChild left id)
    (belowRight : Relation.ReflTransGen document.IsChild right id) : left = right := by
  have noReturn : ∀ {sibling : NodeId}, document.IsChild parent sibling →
      ¬Relation.ReflTransGen document.IsChild sibling parent := by
    intro sibling isSibling back
    exact wellFormed.acyclic attached (Relation.TransGen.head' isSibling back)
  induction belowLeft with
  | refl =>
      rcases Relation.ReflTransGen.cases_tail belowRight with same | ⟨last, upTo, step⟩
      · exact same
      · rw [wellFormed.parent_unique step isLeft] at upTo
        exact absurd upTo (noReturn isRight)
  | @tail upper lower upTo step ih =>
      rcases Relation.ReflTransGen.cases_tail belowRight with same | ⟨last, upToLast, lastStep⟩
      · subst same
        rw [wellFormed.parent_unique step isRight] at upTo
        exact absurd upTo (noReturn isLeft)
      · rw [wellFormed.parent_unique lastStep step] at upToLast
        exact ih upToLast

theorem exists_node (wellFormed : document.WellFormed) (attached : document.Attached id) :
    ∃ node, document.node? id = some node := by
  rcases Relation.ReflTransGen.cases_tail attached with isRoot | ⟨parent, _, node, found, member⟩
  · rcases wellFormed.rootNode with ⟨node, found, _⟩
    rw [isRoot]
    exact ⟨node, found⟩
  · rcases wellFormed.childLinked found member with ⟨childNode, childFound, _⟩
    exact ⟨childNode, childFound⟩

theorem index_lt_size (wellFormed : document.WellFormed) (attached : document.Attached id) :
    id.index < document.size := by
  rcases wellFormed.exists_node attached with ⟨node, found⟩
  exact index_lt_size_of_node? found

theorem wellFounded_below (wellFormed : document.WellFormed) :
    WellFounded fun lower upper : { id // document.Attached id } =>
      Relation.TransGen document.IsChild upper.1 lower.1 :=
  wellFounded_of_acyclic (fun _ => wellFormed.index_lt_size) fun _ => wellFormed.acyclic

end WellFormed

namespace Preorder

variable {pending order : List NodeId}

theorem of_each (each : ∀ id ∈ pending, ∃ order, document.Preorder [id] order) :
    ∃ order, document.Preorder pending order := by
  induction pending with
  | nil => exact ⟨[], nil⟩
  | cons id pending ih =>
      rcases each id (by simp) with ⟨_, first⟩
      rcases ih (fun later member => each later (by simp [member])) with ⟨after, siblings⟩
      cases first with
      | cons found children _ => exact ⟨_, cons found children siblings⟩

theorem of_attached (wellFormed : document.WellFormed) (attached : document.Attached id) :
    ∃ order, document.Preorder [id] order := by
  refine wellFormed.wellFounded_below.induction
    (C := fun node => ∃ order, document.Preorder [node.1] order) ⟨id, attached⟩ ?_
  rintro ⟨upper, upperAttached⟩ ih
  rcases wellFormed.exists_node upperAttached with ⟨node, found⟩
  have children : ∃ below, document.Preorder node.children below := by
    apply of_each
    intro child member
    have isChild : document.IsChild upper child := ⟨node, found, member⟩
    exact ih ⟨child, upperAttached.tail isChild⟩ (Relation.TransGen.single isChild)
  rcases children with ⟨below, children⟩
  exact ⟨_, cons found children nil⟩

theorem mem_iff (ordered : document.Preorder pending order) :
    id ∈ order ↔ ∃ start ∈ pending, Relation.ReflTransGen document.IsChild start id := by
  induction ordered with
  | nil => simp
  | @cons first node pending below after found _ _ ihChildren ihSiblings =>
      have step : Relation.ReflTransGen document.IsChild first id ↔
          id = first ∨ ∃ start ∈ node.children,
            Relation.ReflTransGen document.IsChild start id := by
        rw [Relation.ReflTransGen.cases_head_iff, eq_comm]
        simp [IsChild, found]
      simp only [List.mem_cons, List.mem_append, ihChildren, ihSiblings, exists_eq_or_imp, step,
        or_assoc]

theorem nodup (wellFormed : document.WellFormed) (ordered : document.Preorder pending order)
    (attached : ∀ id ∈ pending, document.Attached id)
    (apart : pending.Pairwise fun left right => ∀ id,
      Relation.ReflTransGen document.IsChild left id →
        ¬Relation.ReflTransGen document.IsChild right id) : order.Nodup := by
  induction ordered with
  | nil => exact List.nodup_nil
  | @cons first node pending below after found children siblings ihChildren ihSiblings =>
      rcases List.pairwise_cons.mp apart with ⟨firstApart, pendingApart⟩
      have firstAttached := attached first (by simp)
      have isChild : ∀ {child : NodeId}, child ∈ node.children → document.IsChild first child :=
        fun member => ⟨node, found, member⟩
      have childrenApart : node.children.Pairwise fun left right => ∀ id,
          Relation.ReflTransGen document.IsChild left id →
            ¬Relation.ReflTransGen document.IsChild right id := by
        refine (wellFormed.childrenNodup found).imp_of_mem ?_
        intro left right inLeft inRight different id belowLeft belowRight
        exact different (wellFormed.siblings_apart firstAttached (isChild inLeft)
          (isChild inRight) belowLeft belowRight)
      have belowNodup := ihChildren
        (fun child member => firstAttached.tail (isChild member)) childrenApart
      have afterNodup := ihSiblings (fun id member => attached id (by simp [member])) pendingApart
      have notBelow : first ∉ below := by
        intro member
        rcases children.mem_iff.mp member with ⟨child, inChildren, back⟩
        exact wellFormed.acyclic firstAttached (Relation.TransGen.head' (isChild inChildren) back)
      have notAfter : ∀ {id : NodeId},
          Relation.ReflTransGen document.IsChild first id → id ∉ after := by
        intro id reached member
        rcases siblings.mem_iff.mp member with ⟨start, inPending, fromStart⟩
        exact firstApart start inPending id reached fromStart
      refine List.nodup_cons.mpr ⟨?_, List.nodup_append'.mpr ⟨belowNodup, afterNodup, ?_⟩⟩
      · rw [List.mem_append, not_or]
        exact ⟨notBelow, notAfter .refl⟩
      · intro id inBelow
        rcases children.mem_iff.mp inBelow with ⟨child, inChildren, reached⟩
        exact notAfter (Relation.ReflTransGen.head (isChild inChildren) reached)

end Preorder

def listed? (document : Document) (id : NodeId) : Option (NodeId × Element) :=
  (document.element? id).map fun element => (id, element)

theorem listed?_eq_some_iff {element : Element} :
    document.listed? id = some (other, element) ↔
      id = other ∧ document.element? id = some element := by
  simp only [listed?, Option.map_eq_some_iff, Prod.mk.injEq]
  constructor
  · rintro ⟨held, holds, same, rfl⟩
    exact ⟨same, holds⟩
  · rintro ⟨same, holds⟩
    exact ⟨element, holds, same, rfl⟩

theorem map_fst_filterMap_listed? (order : List NodeId) :
    (order.filterMap document.listed?).map Prod.fst =
      order.filter fun id => (document.element? id).isSome := by
  rw [List.map_filterMap, ← List.filterMap_eq_filter]
  congr 1
  funext id
  cases holds : document.element? id <;> simp [listed?, Option.guard, holds]

/-- The stack on which these nodes come next, the first one on top. -/
def stackOf (pending : List NodeId) : Array NodeId := pending.reverse.toArray

theorem visitTop_stackOf {node : Node} {pending : List NodeId}
    (found : document.node? id = some node) :
    document.visitTop (stackOf (id :: pending)) =
      (document.listed? id, stackOf (node.children ++ pending)) := by
  simp [visitTop, stackOf, listed?, element?, found]

theorem visit_nil (document : Document) (visits : Nat) :
    document.visit visits (stackOf []) = ([], #[]) := by
  induction visits with
  | zero => rfl
  | succ visits ih =>
      have top : document.visitTop (stackOf []) = (none, stackOf []) := rfl
      simp only [visit_succ, top, ih]
      rfl

/-- As many visits as an order has nodes take what it starts with off the stack, and leave
whatever is below on the stack for later. -/
theorem Preorder.visit {pending order : List NodeId} (ordered : document.Preorder pending order)
    (rest : List NodeId) (visits : Nat) :
    document.visit (order.length + visits) (stackOf (pending ++ rest)) =
      (order.filterMap document.listed? ++ (document.visit visits (stackOf rest)).1,
        (document.visit visits (stackOf rest)).2) := by
  induction ordered generalizing rest visits with
  | nil => simp
  | @cons first node pending below after found _ _ ihChildren ihSiblings =>
      have count : (first :: (below ++ after)).length + visits =
          below.length + (after.length + visits) + 1 := by
        simp only [List.length_cons, List.length_append]
        omega
      rw [count, List.cons_append, visit_succ, visitTop_stackOf found]
      simp only [ihChildren, ihSiblings]
      cases met : document.listed? first <;> simp [met]

theorem length_le_size (wellFormed : document.WellFormed) {order : List NodeId}
    (nodup : order.Nodup) (attached : ∀ id ∈ order, document.Attached id) :
    order.length ≤ document.size := by
  have indices : order.map NodeId.index ⊆ List.range document.size := by
    intro index member
    rcases List.mem_map.mp member with ⟨id, inOrder, rfl⟩
    exact List.mem_range.mpr (wellFormed.index_lt_size (attached id inOrder))
  have distinct : (order.map NodeId.index).Nodup :=
    nodup.map fun left right same => NodeId.ext same
  simpa using (distinct.subperm indices).length_le

namespace Preorder

variable {order : List NodeId}

theorem mem_iff_attached (ordered : document.Preorder [NodeId.root] order) :
    id ∈ order ↔ document.Attached id := by
  simp [ordered.mem_iff, Attached]

theorem nodup_of_root (wellFormed : document.WellFormed)
    (ordered : document.Preorder [NodeId.root] order) : order.Nodup := by
  apply ordered.nodup wellFormed
  · intro id member
    rw [List.mem_singleton.mp member]
    exact Relation.ReflTransGen.refl
  · exact List.pairwise_singleton _ _

theorem visit_root (wellFormed : document.WellFormed)
    (ordered : document.Preorder [NodeId.root] order) {visits : Nat}
    (enough : document.size ≤ visits) :
    document.visit visits #[NodeId.root] = (order.filterMap document.listed?, #[]) := by
  have bound := length_le_size wellFormed (ordered.nodup_of_root wellFormed)
    fun id member => ordered.mem_iff_attached.mp member
  have all := ordered.visit [] (visits - order.length)
  rw [Nat.add_sub_cancel' (bound.trans enough), visit_nil] at all
  simpa [stackOf] using all

/-- The elements are listed as the order has them. -/
theorem elements_eq (wellFormed : document.WellFormed)
    (ordered : document.Preorder [NodeId.root] order) :
    document.elements = order.filterMap document.listed? := by
  rw [elements, ordered.visit_root wellFormed le_rfl]

end Preorder

/-- The visits of a document empty the stack, at the latest when there have been as many as there
are nodes, and list its attached elements in document order: each one once, and none that is on a
cycle of children. -/
theorem elements_in_document_order (constructed : document.Constructed) :
    ∃ order : List NodeId,
      document.Preorder [NodeId.root] order ∧
      order.Nodup ∧
      (∀ id, id ∈ order ↔ document.Attached id) ∧
      (∀ id, Relation.TransGen document.IsChild id id → id ∉ order) ∧
      (∀ visits, document.size ≤ visits →
        document.visit visits #[NodeId.root] = (document.elements, #[])) ∧
      document.elements = order.filterMap document.listed? ∧
      (∀ id element, (id, element) ∈ document.elements ↔
        document.Attached id ∧ document.element? id = some element) ∧
      (document.elements.map Prod.fst).Nodup := by
  have wellFormed := constructed.wellFormed
  rcases Preorder.of_attached wellFormed Relation.ReflTransGen.refl with ⟨order, ordered⟩
  have members : ∀ id, id ∈ order ↔ document.Attached id := fun _ => ordered.mem_iff_attached
  have nodup := ordered.nodup_of_root wellFormed
  have listing := ordered.elements_eq wellFormed
  refine ⟨order, ordered, nodup, members, ?_, ?_, listing, ?_, ?_⟩
  · intro id cycle member
    exact wellFormed.acyclic ((members id).mp member) cycle
  · intro visits enough
    rw [ordered.visit_root wellFormed enough, listing]
  · intro id element
    rw [listing, List.mem_filterMap]
    constructor
    · rintro ⟨visited, member, met⟩
      rcases listed?_eq_some_iff.mp met with ⟨rfl, holds⟩
      exact ⟨(members _).mp member, holds⟩
    · rintro ⟨attached, holds⟩
      exact ⟨id, (members id).mpr attached, listed?_eq_some_iff.mpr ⟨rfl, holds⟩⟩
  · rw [listing, map_fst_filterMap_listed?]
    exact nodup.filter _

/-- Two detached elements made each other's parent, beside an attached one. -/
def detachedCycle : Document :=
  [.createElement ⟨"a", []⟩, .createElement ⟨"b", []⟩, .attach ⟨1⟩ ⟨2⟩, .attach ⟨2⟩ ⟨1⟩,
    .appendElement .root ⟨"main", []⟩].foldl perform empty

theorem elements_beside_detachedCycle :
    Relation.TransGen detachedCycle.IsChild ⟨1⟩ ⟨1⟩ ∧
      detachedCycle.elements.map Prod.fst = [⟨3⟩] ∧
      ∃ order, detachedCycle.Preorder [NodeId.root] order ∧ ⟨1⟩ ∉ order := by
  have down : detachedCycle.IsChild ⟨1⟩ ⟨2⟩ :=
    ⟨⟨some ⟨2⟩, [⟨2⟩], .element ⟨"a", []⟩⟩, rfl, by simp⟩
  have up : detachedCycle.IsChild ⟨2⟩ ⟨1⟩ :=
    ⟨⟨some ⟨1⟩, [⟨1⟩], .element ⟨"b", []⟩⟩, rfl, by simp⟩
  have cycle := Relation.TransGen.tail (.single down) up
  have constructed : detachedCycle.Constructed := Constructed.empty.performAll _
  rcases elements_in_document_order constructed with ⟨order, ordered, _, _, notOnCycle, _⟩
  exact ⟨cycle, rfl, order, ordered, notOnCycle _ cycle⟩

end Document
end AccessAudit
