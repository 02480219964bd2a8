import AccessAudit.Proofs.Document.Append
import AccessAudit.Proofs.Document.Order
import AccessAudit.Proofs.Document.Permanence

/-!
# The way up from a node

This file proves when following parents from a node comes to an end.

Attaching asks whether the child has a parent already, and not whether it is above the node it is
attached to. So a node can be attached to itself or to something below it, and the parents then
lead in a circle. A call does this exactly if it attaches a node that is at or above its new parent
(`Document.ClosesCycle`), and no later call undoes it, for parents are never changed. A document is
therefore free of circles exactly if none of the calls that built it closes one.

Nodes below the root are safe in any case. Parents are unique, so from there the only way up is the
one that leads to the root.
-/

namespace AccessAudit
namespace Document

open Relation

variable {document : Document} {id parent child : NodeId}

/-- The second node is the parent of the first one. -/
def HasParent (document : Document) (id parent : NodeId) : Prop :=
  document.parent? id = some parent

def Acyclic (document : Document) : Prop :=
  ∀ id, ¬TransGen document.HasParent id id

/-- Following parents from the first node ends at the second one, which has none. -/
def EndsAt (document : Document) (id top : NodeId) : Prop :=
  ReflTransGen document.HasParent id top ∧
    ∃ node, document.node? top = some node ∧ node.parent = none

/-- The call attaches a node that is at or above its new parent. -/
def ClosesCycle (document : Document) : DocumentCall → Prop
  | .attach parent child =>
      document.Attachable parent child ∧ ReflTransGen document.HasParent parent child
  | .appendElement parent _ => parent = document.nextId
  | .createElement _ | .createText _ => False

theorem HasParent.rightUnique : Relator.RightUnique document.HasParent := by
  intro id left right isLeft isRight
  simp_all [HasParent]

theorem HasParent.exists_node (wellFormed : document.WellFormed)
    (step : document.HasParent id parent) : ∃ node, document.node? parent = some node := by
  rcases parent?_eq_some_iff.mp step with ⟨node, found, hasParent⟩
  rcases wellFormed.parentLinked found hasParent with ⟨parentNode, parentFound, _⟩
  exact ⟨parentNode, parentFound⟩

theorem Grows.hasParent_le {before after : Document} (grows : before.Grows after) :
    before.HasParent ≤ after.HasParent := by
  intro id parent step
  rcases parent?_eq_some_iff.mp step with ⟨node, found, hasParent⟩
  rcases grows id node found with ⟨later, foundLater, growth⟩
  exact parent?_eq_some_iff.mpr ⟨later, foundLater, growth.parent hasParent⟩

theorem Acyclic.of_grows {before after : Document} (acyclic : after.Acyclic)
    (grows : before.Grows after) : before.Acyclic := by
  intro id cycle
  exact acyclic id (TransGen.mono grows.hasParent_le id id cycle)

namespace EndsAt

variable {top above : NodeId}

theorem not_hasParent (ends : document.EndsAt id top) : ¬document.HasParent top parent := by
  rcases ends with ⟨_, node, found, detached⟩
  simp [HasParent, parent?, found, detached]

theorem of_above (ends : document.EndsAt id top)
    (reaches : ReflTransGen document.HasParent id above) : document.EndsAt above top := by
  refine ⟨?_, ends.2⟩
  rcases ReflTransGen.total_of_right_unique HasParent.rightUnique reaches ends.1 with up | down
  · exact up
  · rcases ReflTransGen.cases_head down with same | ⟨_, step, _⟩
    · rw [same]
    · exact absurd step ends.not_hasParent

theorem not_cyclic (ends : document.EndsAt id top) : ¬TransGen document.HasParent id id := by
  have last : ∀ parent, ¬document.HasParent top parent := fun _ => ends.not_hasParent
  rcases ends with ⟨reaches, isTop⟩
  induction reaches using ReflTransGen.head_induction_on with
  | refl =>
      intro cycle
      rcases TransGen.head'_iff.mp cycle with ⟨_, step, _⟩
      exact last _ step
  | head step _ ih =>
      intro cycle
      rcases TransGen.head'_iff.mp cycle with ⟨next, first, back⟩
      have same := HasParent.rightUnique step first
      subst same
      exact ih (TransGen.tail' back step)

end EndsAt

namespace WellFormed

theorem exists_node_above {node : Node} {above : NodeId} (wellFormed : document.WellFormed)
    (found : document.node? id = some node)
    (reaches : ReflTransGen document.HasParent id above) :
    ∃ node, document.node? above = some node := by
  rcases ReflTransGen.cases_tail reaches with same | ⟨_, _, step⟩
  · rw [same]
    exact ⟨node, found⟩
  · exact step.exists_node wellFormed

theorem exists_endsAt {node : Node} (wellFormed : document.WellFormed)
    (found : document.node? id = some node)
    (acyclic : ∀ above, ReflTransGen document.HasParent id above →
      ¬TransGen document.HasParent above above) : ∃ top, document.EndsAt id top := by
  have present : ∀ above, ReflTransGen document.HasParent id above →
      above.index < document.size := by
    intro above reaches
    rcases wellFormed.exists_node_above found reaches with ⟨_, aboveFound⟩
    exact index_lt_size_of_node? aboveFound
  refine (wellFounded_of_acyclic present acyclic).induction
    (C := fun above => ∃ top, document.EndsAt above.1 top) ⟨id, .refl⟩ ?_
  rintro ⟨above, reaches⟩ ih
  rcases wellFormed.exists_node_above found reaches with ⟨aboveNode, aboveFound⟩
  cases next : aboveNode.parent with
  | none => exact ⟨above, .refl, aboveNode, aboveFound, next⟩
  | some parent =>
      have step : document.HasParent above parent :=
        parent?_eq_some_iff.mpr ⟨aboveNode, aboveFound, next⟩
      rcases ih ⟨parent, reaches.tail step⟩ (.single step) with ⟨top, rest, isTop⟩
      exact ⟨top, .head step rest, isTop⟩

theorem endsAt_iff {node : Node} (wellFormed : document.WellFormed)
    (found : document.node? id = some node) :
    (∃ top, document.EndsAt id top) ↔
      ∀ above, ReflTransGen document.HasParent id above →
        ¬TransGen document.HasParent above above := by
  constructor
  · rintro ⟨top, ends⟩ above reaches
    exact (ends.of_above reaches).not_cyclic
  · exact wellFormed.exists_endsAt found

theorem isChild_iff_hasParent (wellFormed : document.WellFormed) :
    document.IsChild parent child ↔ document.HasParent child parent := by
  constructor
  · rintro ⟨node, found, listed⟩
    exact (wellFormed.mem_children_iff found).mp listed
  · intro step
    rcases step.exists_node wellFormed with ⟨node, found⟩
    exact ⟨node, found, (wellFormed.mem_children_iff found).mpr step⟩

theorem endsAt_root (wellFormed : document.WellFormed) (attached : document.Attached id) :
    document.EndsAt id .root := by
  constructor
  · induction attached with
    | refl => exact .refl
    | tail _ step ih => exact .head (wellFormed.isChild_iff_hasParent.mp step) ih
  · rcases wellFormed.rootNode with ⟨node, found, detached, _⟩
    exact ⟨node, found, detached⟩

end WellFormed

theorem hasParent_create_iff {content : NodeContent} :
    (document.create content).1.HasParent id parent ↔ document.HasParent id parent := by
  simp only [HasParent, parent?, node?_create]
  split
  · rename_i isNew
    have missing : document.node? id = none := by
      simp [node?, isNew, size]
    simp [missing]
  · rfl

theorem hasParent_link_iff {above : NodeId} (attachable : document.Attachable parent child) :
    (document.link parent child).HasParent id above ↔
      document.HasParent id above ∨ (id = child ∧ above = parent) := by
  rcases attachable.detached with ⟨childNode, childFound, free⟩
  simp only [HasParent, parent?, node?_link]
  by_cases isChild : id = child
  · subst isChild
    simp [childFound, free, eq_comm]
  · simp [isChild, Option.bind_map]

/-- A way that may use one more step from `child` to `parent` does without it, or else leads to
`child` and goes on from `parent`. -/
theorem transGen_link_cases {lower upper : NodeId} (attachable : document.Attachable parent child)
    (reaches : TransGen (document.link parent child).HasParent lower upper) :
    TransGen document.HasParent lower upper ∨
      (ReflTransGen document.HasParent lower child ∧
        ReflTransGen document.HasParent parent upper) := by
  induction reaches with
  | single step =>
      rcases (hasParent_link_iff attachable).mp step with old | ⟨rfl, rfl⟩
      · exact .inl (.single old)
      · exact .inr ⟨.refl, .refl⟩
  | tail _ step ih =>
      rcases (hasParent_link_iff attachable).mp step with old | ⟨rfl, rfl⟩
      · rcases ih with without | ⟨before, after⟩
        · exact .inl (without.tail old)
        · exact .inr ⟨before, after.tail old⟩
      · rcases ih with without | ⟨before, _⟩
        · exact .inr ⟨without.to_reflTransGen, .refl⟩
        · exact .inr ⟨before, .refl⟩

theorem acyclic_link_iff (acyclic : document.Acyclic)
    (attachable : document.Attachable parent child) :
    (document.link parent child).Acyclic ↔ ¬ReflTransGen document.HasParent parent child := by
  constructor
  · intro stays reaches
    have newStep : (document.link parent child).HasParent child parent :=
      (hasParent_link_iff attachable).mpr (.inr ⟨rfl, rfl⟩)
    have stillReaches :=
      ReflTransGen.mono (Grows.of_link attachable).hasParent_le parent child reaches
    exact stays child (TransGen.head' newStep stillReaches)
  · intro apart id cycle
    rcases transGen_link_cases attachable cycle with old | ⟨toChild, fromParent⟩
    · exact acyclic id old
    · exact apart (fromParent.trans toChild)

theorem acyclic_create_iff {content : NodeContent} :
    (document.create content).1.Acyclic ↔ document.Acyclic := by
  have same : (document.create content).1.HasParent = document.HasParent := by
    funext id parent
    exact propext hasParent_create_iff
  rw [Acyclic, same, Acyclic]

theorem acyclic_attach_iff (acyclic : document.Acyclic) :
    (document.perform (.attach parent child)).Acyclic ↔
      ¬document.ClosesCycle (.attach parent child) := by
  simp only [perform, ClosesCycle]
  split
  · rename_i attached succeeds
    rcases attach_eq_ok_iff.mp succeeds with ⟨attachable, rfl⟩
    simp [acyclic_link_iff acyclic attachable, attachable]
  · rename_i cause fails
    have notAttachable : ¬document.Attachable parent child := by
      intro attachable
      rw [attach_eq_ok_iff.mpr ⟨attachable, rfl⟩] at fails
      cases fails
    simp [acyclic, notAttachable]

/-- The node that is created by a call is above nothing yet, so attaching it closes a cycle only
where it is attached to itself. -/
theorem closesCycle_created_iff (constructed : document.Constructed) {element : Element} :
    (document.createElement element).1.ClosesCycle (.attach parent document.nextId) ↔
      parent = document.nextId := by
  constructor
  · rintro ⟨_, reaches⟩
    rcases ReflTransGen.cases_tail reaches with same | ⟨lower, _, step⟩
    · exact same.symm
    · have oldStep := hasParent_create_iff.mp step
      rcases oldStep.exists_node constructed.wellFormed with ⟨node, found⟩
      exact absurd rfl (ne_nextId_of_node? found)
  · rintro rfl
    exact ⟨(attachable_created_iff constructed).mpr (.inr rfl), .refl⟩

theorem Acyclic.perform_iff (acyclic : document.Acyclic) (constructed : document.Constructed)
    (call : DocumentCall) :
    (document.perform call).Acyclic ↔ ¬document.ClosesCycle call := by
  cases call with
  | createElement element => simpa [perform, createElement, ClosesCycle, acyclic_create_iff]
  | createText text => simpa [perform, createText, ClosesCycle, acyclic_create_iff]
  | attach parent child => exact acyclic_attach_iff acyclic
  | appendElement parent element =>
      have extended : (document.createElement element).1.Acyclic := acyclic_create_iff.mpr acyclic
      rw [perform_appendElement, ← nextId, acyclic_attach_iff extended,
        closesCycle_created_iff constructed, ClosesCycle]

theorem acyclic_perform_iff (constructed : document.Constructed) (call : DocumentCall) :
    (document.perform call).Acyclic ↔ document.Acyclic ∧ ¬document.ClosesCycle call := by
  constructor
  · intro after
    have before := after.of_grows (Grows.of_changes (perform_changes document call))
    exact ⟨before, (before.perform_iff constructed call).mp after⟩
  · rintro ⟨before, harmless⟩
    exact (before.perform_iff constructed call).mpr harmless

theorem acyclic_performAll_iff {start : Document} (constructed : start.Constructed)
    (acyclic : start.Acyclic) (calls : List DocumentCall) :
    (calls.foldl perform start).Acyclic ↔
      ∀ earlier call, earlier ++ [call] <+: calls →
        ¬(earlier.foldl perform start).ClosesCycle call := by
  induction calls using List.reverseRecOn with
  | nil => simp [acyclic]
  | append_singleton calls last ih =>
      rw [List.foldl_concat, acyclic_perform_iff (constructed.performAll calls), ih]
      constructor
      · rintro ⟨harmless, lastHarmless⟩ earlier call made
        rcases List.prefix_concat_iff.mp made with whole | part
        · rcases List.append_inj' whole rfl with ⟨rfl, isLast⟩
          cases isLast
          exact lastHarmless
        · exact harmless earlier call part
      · intro harmless
        refine ⟨?_, harmless calls last (List.prefix_refl _)⟩
        intro earlier call made
        exact harmless earlier call (made.trans (List.prefix_append _ _))

/-- The documents that calls start from. -/
inductive Initial : Document → Prop where
  | empty : Initial empty
  | ofElement (element : Element) : Initial (ofElement element)

namespace Initial

variable {start : Document}

theorem constructed (initial : start.Initial) : start.Constructed := by
  cases initial with
  | empty => exact .empty
  | ofElement element => exact .ofElement element

theorem acyclic_empty : Document.empty.Acyclic := by
  intro id cycle
  rcases TransGen.head'_iff.mp cycle with ⟨parent, step, _⟩
  have bound : id.index < 1 := by
    rcases parent?_eq_some_iff.mp step with ⟨node, found, _⟩
    exact index_lt_size_of_node? found
  have isRoot : id = .root := NodeId.ext (by simp only [NodeId.root]; omega)
  subst isRoot
  cases step

theorem acyclic (initial : start.Initial) : start.Acyclic := by
  cases initial with
  | empty => exact acyclic_empty
  | ofElement element =>
      have appended : Document.empty.perform (.appendElement .root element) =
          Document.ofElement element := rfl
      rw [← appended, acyclic_perform_iff .empty]
      refine ⟨acyclic_empty, ?_⟩
      simp [ClosesCycle, nextId, Document.empty, size, NodeId.root]

end Initial

/-- The parents in a document lead in no circle exactly if no call has attached a node at or below
itself. Whether they do or not, the way up from a node ends exactly if it meets no node that is
above itself, and from every node below the root it ends there. -/
theorem acyclic_iff_no_call_closes_cycle {start : Document} (initial : start.Initial)
    (calls : List DocumentCall) :
    let document := calls.foldl perform start
    (document.Acyclic ↔ ∀ earlier call, earlier ++ [call] <+: calls →
      ¬(earlier.foldl perform start).ClosesCycle call) ∧
    (∀ id node, document.node? id = some node →
      ((∃ top, document.EndsAt id top) ↔
        ∀ above, ReflTransGen document.HasParent id above →
          ¬TransGen document.HasParent above above)) ∧
    (∀ id, document.Attached id → document.EndsAt id .root) := by
  intro document
  have wellFormed : document.WellFormed := (initial.constructed.performAll calls).wellFormed
  refine ⟨acyclic_performAll_iff initial.constructed initial.acyclic calls, ?_, ?_⟩
  · intro id node found
    exact wellFormed.endsAt_iff found
  · intro id attached
    exact wellFormed.endsAt_root attached

theorem acyclic_iff_no_call_closes_cycle_nested :
    let calls : List DocumentCall :=
      [.appendElement .root ⟨"ul", []⟩, .appendElement ⟨1⟩ ⟨"li", []⟩]
    (calls.foldl perform empty).Acyclic ∧ (calls.foldl perform empty).EndsAt ⟨2⟩ .root := by
  intro calls
  have ⟨acyclic, _, toRoot⟩ := acyclic_iff_no_call_closes_cycle .empty calls
  have outer : (calls.foldl perform empty).IsChild .root ⟨1⟩ :=
    ⟨⟨none, [⟨1⟩], .root⟩, rfl, by simp⟩
  have inner : (calls.foldl perform empty).IsChild ⟨1⟩ ⟨2⟩ :=
    ⟨⟨some .root, [⟨2⟩], .element ⟨"ul", []⟩⟩, rfl, by simp⟩
  refine ⟨acyclic.mpr ?_, toRoot ⟨2⟩ (.tail (.single outer) inner)⟩
  rintro earlier call ⟨later, made⟩
  rcases earlier with _ | ⟨first, _ | ⟨second, _⟩⟩
  · rcases (by simpa [calls] using made : call = _ ∧ later = _) with ⟨rfl, _⟩
    exact (by decide : NodeId.root ≠ ⟨1⟩)
  · rcases (by simpa [calls] using made : first = _ ∧ call = _ ∧ later = _) with ⟨rfl, rfl, _⟩
    exact (by decide : (⟨1⟩ : NodeId) ≠ ⟨2⟩)
  · simp [calls] at made

/-- A node may be attached to itself. It is then above itself, and following parents from it does
not end. -/
theorem cyclic_selfAttached :
    selfAttached.Constructed ∧ TransGen selfAttached.HasParent ⟨1⟩ ⟨1⟩ ∧
      ¬∃ top, selfAttached.EndsAt ⟨1⟩ top := by
  have cycle : TransGen selfAttached.HasParent ⟨1⟩ ⟨1⟩ := .single rfl
  refine ⟨selfAttached_constructed, cycle, ?_⟩
  rintro ⟨top, ends⟩
  exact ends.not_cyclic cycle

end Document
end AccessAudit
