import AccessAudit.Proofs.Lint.Likeness
import AccessAudit.Proofs.Lint.ReportOrder

/-!
# The order of attributes

This file proves that the order in which attributes are written has no influence on what is
reported, as long as attributes of one name stay in their order. Of several attributes of one name
the first counts, so these cannot be exchanged.

An element is rearranged by a permutation of positions. Each name is then found where its first
attribute has been moved to (`Element.Rearranges.find?_eq`), so the two elements are alike; and each
attribute, wherever it stands, is judged as before.
-/

namespace AccessAudit

namespace Attribute

theorem find?_eq_some_iff {attributes : List Attribute} {name : String} {attr : Attribute} :
    find? attributes name = some attr ↔
      attr.isNamed name = true ∧ ∃ index : Nat, attributes[index]? = some attr ∧
        ∀ (earlier : Nat) (other : Attribute), earlier < index →
          attributes[earlier]? = some other → other.isNamed name = false := by
  simp only [find?, List.find?_eq_some_iff_getElem, List.getElem?_eq_some_iff]
  constructor
  · rintro ⟨named, index, bound, atIndex, before⟩
    refine ⟨named, index, ⟨bound, atIndex⟩, ?_⟩
    rintro earlier _ below ⟨_, rfl⟩
    simpa using before earlier below
  · rintro ⟨named, index, ⟨bound, atIndex⟩, before⟩
    refine ⟨named, index, bound, atIndex, ?_⟩
    intro earlier below
    simp [before earlier _ below ⟨_, rfl⟩]

theorem isNamed_congr {attr other : Attribute} {name : String} (named : attr.isNamed name = true)
    (otherNamed : other.isNamed name = true) : attr.isNamed other.name = true := by
  simp only [isNamed, Text.eqIgnoringCase_iff] at named otherNamed ⊢
  rw [named, otherNamed]

end Attribute

namespace Element

/-- Each attribute is moved to another position, and none is moved past one of the same name. The
positions behind the last attribute are moved among themselves. -/
structure Rearranges (element rearranged : Element) (position : Equiv.Perm Nat) : Prop where
  tag : rearranged.tag = element.tag
  attributes : ∀ index : Nat, rearranged.attributes[position index]? = element.attributes[index]?
  stable : ∀ (earlier later : Nat) (attr other : Attribute),
    element.attributes[earlier]? = some attr → element.attributes[later]? = some other →
      attr.isNamed other.name = true → earlier < later → position earlier < position later

namespace Rearranges

variable {element rearranged : Element} {position : Equiv.Perm Nat}

theorem attributes_symm (rearranges : element.Rearranges rearranged position) (index : Nat) :
    rearranged.attributes[index]? = element.attributes[position.symm index]? := by
  rw [← rearranges.attributes, Equiv.apply_symm_apply]

/-- The first attribute of a name stays the first. -/
theorem find?_eq (rearranges : element.Rearranges rearranged position) (name : String) :
    Attribute.find? rearranged.attributes name = Attribute.find? element.attributes name := by
  cases found : Attribute.find? element.attributes name with
  | none =>
      simp only [Attribute.find?, List.find?_eq_none] at found ⊢
      intro attr member
      rcases List.mem_iff_getElem?.mp member with ⟨index, atIndex⟩
      rw [rearranges.attributes_symm] at atIndex
      exact found attr (List.mem_of_getElem? atIndex)
  | some attr =>
      rcases Attribute.find?_eq_some_iff.mp found with ⟨named, index, atIndex, first⟩
      refine Attribute.find?_eq_some_iff.mpr ⟨named, position index, ?_, ?_⟩
      · rw [rearranges.attributes, atIndex]
      · intro earlier other below atEarlier
        rw [rearranges.attributes_symm] at atEarlier
        rw [← Bool.not_eq_true]
        intro otherNamed
        have notBefore : ¬position.symm earlier < index := by
          intro before
          rw [first _ _ before atEarlier] at otherNamed
          cases otherNamed
        have notSame : position.symm earlier ≠ index := by
          rintro rfl
          simp at below
        have behind := rearranges.stable index (position.symm earlier) attr other atIndex atEarlier
          (Attribute.isNamed_congr named otherNamed) (by omega)
        rw [Equiv.apply_symm_apply] at behind
        omega

theorem alike (rearranges : element.Rearranges rearranged position) : element.Alike rearranged :=
  .of_find? rearranges.tag rearranges.find?_eq

theorem zipIdx_perm (rearranges : element.Rearranges rearranged position) :
    (element.attributes.zipIdx.map (Prod.map id position)).Perm rearranged.attributes.zipIdx := by
  have indices : ∀ attributes : List Attribute, (attributes.zipIdx.map Prod.snd).Nodup := by
    intro attributes
    rw [List.zipIdx_map_snd]
    exact List.nodup_range'
  rw [List.perm_ext_iff_of_nodup]
  · rintro ⟨attr, index⟩
    simp only [List.mem_map, Prod.exists, Prod.map_apply, id, Prod.mk.injEq,
      List.mk_mem_zipIdx_iff_getElem?, rearranges.attributes_symm]
    constructor
    · rintro ⟨_, before, atBefore, rfl, rfl⟩
      rw [Equiv.symm_apply_apply, atBefore]
    · intro atIndex
      exact ⟨attr, position.symm index, atIndex, rfl, Equiv.apply_symm_apply ..⟩
  · refine List.Nodup.map ?_ (indices _).of_map
    exact Function.injective_id.prodMap position.injective
  · exact (indices _).of_map

end Rearranges
end Element

/-- The diagnostic about the attribute at its new position. -/
def Diagnostic.moved (position : Nat → Nat) (diagnostic : Diagnostic) : Diagnostic :=
  { diagnostic with
    target :=
      match diagnostic.target with
      | .element => .element
      | .attribute index => .attribute (position index) }

namespace Linter

variable {linter : Linter} {node : NodeId} {element rearranged : Element}

theorem filter_lintElement_element :
    (linter.lintElement node element).filter (fun diagnostic => diagnostic.target = .element) =
      linter.rules.filterMap (·.onElement? linter.ontology node element) := by
  rw [lintElement, List.filter_append, List.filter_eq_self.mpr, List.filter_eq_nil_iff.mpr,
    List.append_nil]
  · intro diagnostic member
    rcases List.mem_flatMap.mp member with ⟨written, _, reported⟩
    simp [target_of_mem_reports reported]
  · intro diagnostic reported
    simp [target_of_mem_reports reported]

theorem filter_lintElement_attribute :
    (linter.lintElement node element).filter (fun diagnostic => diagnostic.target ≠ .element) =
      element.attributes.zipIdx.flatMap fun (attr, index) =>
        linter.rules.filterMap (·.onAttribute? linter.ontology node element attr index) := by
  rw [lintElement, List.filter_append, List.filter_eq_nil_iff.mpr, List.filter_eq_self.mpr,
    List.nil_append]
  · intro diagnostic member
    rcases List.mem_flatMap.mp member with ⟨written, _, reported⟩
    simp [target_of_mem_reports reported]
  · intro diagnostic reported
    simp [target_of_mem_reports reported]

theorem moved_reports (alike : element.Alike rearranged) (position : Nat → Nat) (attr : Attribute)
    (index : Nat) :
    (linter.rules.filterMap
        (·.onAttribute? linter.ontology node element attr index)).map (Diagnostic.moved position) =
      linter.rules.filterMap
        (·.onAttribute? linter.ontology node rearranged attr (position index)) := by
  simp only [ActiveRule.onAttribute?, List.map_filterMap, Option.map_map,
    Rule.checkAttribute_eq_of_alike alike]
  rfl

/-- Where attributes are rearranged, the diagnostics of the element as a whole are the same, and
those of its attributes are the same when they are moved with the attributes. -/
theorem lintElement_of_rearranges {position : Equiv.Perm Nat}
    (rearranges : element.Rearranges rearranged position) :
    (linter.lintElement node rearranged).filter (fun diagnostic => diagnostic.target = .element) =
      (linter.lintElement node element).filter (fun diagnostic => diagnostic.target = .element) ∧
    (((linter.lintElement node element).filter fun diagnostic =>
          diagnostic.target ≠ .element).map (Diagnostic.moved position)).Perm
      ((linter.lintElement node rearranged).filter fun diagnostic =>
        diagnostic.target ≠ .element) := by
  have alike := rearranges.alike
  constructor
  · simp only [filter_lintElement_element, ActiveRule.onElement?,
      Rule.checkElement_eq_of_alike alike rearranges.tag]
  · rw [filter_lintElement_attribute, filter_lintElement_attribute, List.map_flatMap]
    simp only [moved_reports alike]
    have permuted := rearranges.zipIdx_perm.flatMap_right fun (attr, index) =>
      linter.rules.filterMap (·.onAttribute? linter.ontology node rearranged attr index)
    rw [List.flatMap_map] at permuted
    exact permuted

theorem lintElement_of_rearranges_image :
    let linter : Linter := ⟨Ontology.empty,
      [⟨.imageText ⟨[]⟩, .error⟩, ⟨.propertyName, .warning⟩, ⟨.tabOrder, .error⟩]⟩
    let first : Attribute := ⟨"tabIndex", some (.literal (.string "5"))⟩
    let second : Attribute := ⟨"TABINDEX", some (.literal (.string "7"))⟩
    let element : Element := ⟨"img", [first, ⟨"aria-labeled", none⟩, second]⟩
    let rearranged : Element := ⟨"img", [⟨"aria-labeled", none⟩, first, second]⟩
    (linter.lintElement ⟨1⟩ rearranged).map Diagnostic.place =
        [(⟨1⟩, .element, .imageText), (⟨1⟩, .attribute 0, .propertyName),
          (⟨1⟩, .attribute 1, .tabOrder), (⟨1⟩, .attribute 2, .tabOrder)] ∧
      (((linter.lintElement ⟨1⟩ element).filter fun diagnostic =>
            diagnostic.target ≠ .element).map (Diagnostic.moved (Equiv.swap 0 1))).Perm
        ((linter.lintElement ⟨1⟩ rearranged).filter fun diagnostic =>
          diagnostic.target ≠ .element) := by
  intro linter first second element rearranged
  have rearranges : element.Rearranges rearranged (Equiv.swap 0 1) := by
    refine ⟨rfl, ?_, ?_⟩
    · intro index
      match index with
      | 0 | 1 => rfl
      | index + 2 => rw [Equiv.swap_apply_of_ne_of_ne (by omega) (by omega)]; rfl
    · intro earlier later attr other atEarlier atLater named below
      have within : later < 3 := (List.getElem?_eq_some_iff.mp atLater).1
      obtain ⟨rfl, rfl⟩ | ⟨rfl, rfl⟩ | ⟨rfl, rfl⟩ : (earlier = 0 ∧ later = 1) ∨
          (earlier = 0 ∧ later = 2) ∨ (earlier = 1 ∧ later = 2) := by omega
      · cases atEarlier
        cases atLater
        exact absurd named (by decide)
      · decide
      · cases atEarlier
        cases atLater
        exact absurd named (by decide)
  exact ⟨by decide +kernel, (lintElement_of_rearranges rearranges).2⟩

end Linter
end AccessAudit
