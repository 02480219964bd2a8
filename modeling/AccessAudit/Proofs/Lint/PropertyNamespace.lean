import AccessAudit.Lint.Rule
import AccessAudit.Proofs.Text.LetterCase
import Mathlib.Control.Basic
import Mathlib.Data.Option.Basic
import Mathlib.Data.String.Basic

/-!
# The namespace of properties

Two rules look at attributes whose names begin with `aria-`. The rule on property names tells them
by this beginning and reports the ones that are not catalogued. The rule on property values does
not look at the beginning: it goes by the catalogue alone, and reports values outside the type found
there.

This file proves that the two rules share the namespace out between them. All names of the
catalogue have the beginning (`Property.beginning_of_mem`), so what one rule leaves to the other is
judged there, and nothing outside the namespace is judged at all.

The beginning of a name is its first five characters. It may just as well be looked for in the first
five bytes, where these end with a character (`Property.inNamespace_iff_bytes`): the characters that
agree with those of `aria-` ignoring case take one byte each.
-/

namespace AccessAudit

namespace Text

theorem utf8Size_toLower (c : Char) : c.toLower.utf8Size = c.utf8Size :=
  forall_char (P := fun c => c.toLower.utf8Size = c.utf8Size) (by decide +kernel)
    (by simp +contextual) c

theorem utf8Len_map_toLower (chars : List Char) :
    String.utf8Len (chars.map Char.toLower) = String.utf8Len chars := by
  induction chars with
  | nil => rfl
  | cons c rest ih =>
      rw [List.map_cons, String.utf8Len_cons, String.utf8Len_cons, ih, utf8Size_toLower]

theorem utf8ByteSize_lower (text : String) : (lower text).utf8ByteSize = text.utf8ByteSize := by
  rw [lower, String.utf8ByteSize_ofList, utf8Len_map_toLower, ← String.utf8ByteSize_ofList,
    String.ofList_toList]

end Text

namespace Property

variable {name : String} {type : PropertyType}

/-- The first five characters of the name are those of `aria-`, ignoring case. -/
def InNamespace (name : String) : Prop :=
  Text.eqIgnoringCase (String.ofList (name.toList.take 5)) "aria-" = true

instance (name : String) : Decidable (InNamespace name) :=
  inferInstanceAs (Decidable (_ = true))

theorem inNamespace_iff_lower :
    InNamespace name ↔ (Text.lower name).toList.take 5 = "aria-".toList := by
  have small : Text.lower "aria-" = "aria-" := by decide
  rw [InNamespace, Text.eqIgnoringCase_iff, small, ← String.toList_inj]
  simp [List.map_take]

theorem inNamespace_iff_bytes :
    InNamespace name ↔
      ∃ lead rest, name = lead ++ rest ∧ lead.utf8ByteSize = 5 ∧
        Text.eqIgnoringCase lead "aria-" = true := by
  constructor
  · intro begins
    refine ⟨String.ofList (name.toList.take 5), String.ofList (name.toList.drop 5), ?_, ?_, begins⟩
    · rw [← String.ofList_append, List.take_append_drop, String.ofList_toList]
    · rw [← Text.utf8ByteSize_lower, Text.eqIgnoringCase_iff.mp begins, Text.utf8ByteSize_lower]
      decide
  · rintro ⟨lead, rest, rfl, _, begins⟩
    have sameChars := congrArg String.toList (Text.eqIgnoringCase_iff.mp begins)
    have fiveChars : lead.toList.length = 5 := by simpa using congrArg List.length sameChars
    rw [InNamespace, String.toList_append, List.take_left' fiveChars, String.ofList_toList]
    exact begins

theorem beginning_of_mem {entry : String × PropertyType} (listed : entry ∈ catalogue) :
    entry.1.toList.take 5 = "aria-".toList := by
  revert entry
  decide +kernel

theorem catalogue_distinct : (catalogue.map Prod.fst).Nodup := by
  decide +kernel

theorem type?_eq_some_iff : type? name = some type ↔ (Text.lower name, type) ∈ catalogue := by
  constructor
  · exact mem_of_lookup
  · intro listed
    rcases List.append_of_mem listed with ⟨before, after, split⟩
    refine List.lookup_eq_some_iff.mpr ⟨before, after, split, ?_⟩
    intro entry earlier
    have distinct := catalogue_distinct
    rw [split, List.map_append, List.nodup_append] at distinct
    have different := distinct.2.2 entry.1 (List.mem_map_of_mem earlier) (Text.lower name) (by simp)
    simpa using different.symm

theorem type?_eq_none_iff : type? name = none ↔ ∀ type, (Text.lower name, type) ∉ catalogue := by
  simp [Option.eq_none_iff_forall_ne_some, type?_eq_some_iff]

theorem inNamespace_of_type? (found : type? name = some type) : InNamespace name := by
  have begins := beginning_of_mem (type?_eq_some_iff.mp found)
  exact inNamespace_iff_lower.mpr begins

end Property

variable {attr : Attribute} {type : PropertyType}

theorem PropertyName.check_of_type? (found : Property.type? attr.name = some type) :
    check attr = none := by
  simp [check, Property.isKnown, found]

theorem PropertyName.check_of_unknown (unknown : Property.type? attr.name = none)
    (inNamespace : Property.InNamespace attr.name) :
    check attr = some (.unknownProperty attr.name) := by
  have looksLike : looksLikeProperty attr.name = true := inNamespace
  simp [check, Property.isKnown, unknown, looksLike]

theorem PropertyName.check_of_outside (outside : ¬Property.InNamespace attr.name) :
    check attr = none := by
  have looksDifferent : ¬looksLikeProperty attr.name = true := outside
  simp [check, looksDifferent]

/-- The attribute is known to have a value outside the type. -/
def Attribute.Misfits (attr : Attribute) (type : PropertyType) : Prop :=
  ∃ value, attr.reading = .known value ∧ type.accepts value = false

theorem PropertyValue.check_of_type? (found : Property.type? attr.name = some type) :
    (attr.Misfits type ∧ check attr = some (.wrongType attr.name type)) ∨
      (¬attr.Misfits type ∧ check attr = none) := by
  cases read : attr.reading with
  | known value =>
      cases accepted : type.accepts value <;>
        simp [check, found, Property.isValid, read, Reading.value?, accepted, Attribute.Misfits]
  | unknown => simp [check, found, Property.isValid, read, Reading.value?, Attribute.Misfits]
  | absent => simp [check, found, Property.isValid, read, Reading.value?, Attribute.Misfits]

theorem PropertyValue.check_of_unknown (unknown : Property.type? attr.name = none) :
    check attr = none := by
  simp [check, unknown]

/-- Of an attribute in the namespace of properties either the name is catalogued, and then no rule
objects to the name and the value is reported exactly if it is known and outside its type; or it is
not catalogued, and then the name is reported and nothing is said of the value. Of an attribute
outside the namespace nothing is reported. The namespace is the same in characters and in bytes. -/
theorem property_rules_share_namespace (ontology : Ontology) (element : Element)
    (attr : Attribute) :
    (Property.InNamespace attr.name →
      (∃ type, (Text.lower attr.name, type) ∈ Property.catalogue ∧
        Rule.propertyName.checkAttribute ontology element attr = none ∧
        ((attr.Misfits type ∧ Rule.propertyValue.checkAttribute ontology element attr =
            some (.wrongType attr.name type)) ∨
          (¬attr.Misfits type ∧
            Rule.propertyValue.checkAttribute ontology element attr = none))) ∨
      ((∀ type, (Text.lower attr.name, type) ∉ Property.catalogue) ∧
        Rule.propertyName.checkAttribute ontology element attr =
          some (.unknownProperty attr.name) ∧
        Rule.propertyValue.checkAttribute ontology element attr = none)) ∧
    (¬Property.InNamespace attr.name →
      Rule.propertyName.checkAttribute ontology element attr = none ∧
        Rule.propertyValue.checkAttribute ontology element attr = none) ∧
    (Property.InNamespace attr.name ↔
      ∃ lead rest, attr.name = lead ++ rest ∧ lead.utf8ByteSize = 5 ∧
        Text.eqIgnoringCase lead "aria-" = true) := by
  refine ⟨?_, ?_, Property.inNamespace_iff_bytes⟩
  · intro inNamespace
    cases found : Property.type? attr.name with
    | some type =>
        left
        exact ⟨type, Property.type?_eq_some_iff.mp found, PropertyName.check_of_type? found,
          PropertyValue.check_of_type? found⟩
    | none =>
        right
        exact ⟨Property.type?_eq_none_iff.mp found,
          PropertyName.check_of_unknown found inNamespace, PropertyValue.check_of_unknown found⟩
  · intro outside
    have unknown : Property.type? attr.name = none := by
      by_contra known
      rcases Option.ne_none_iff_exists'.mp known with ⟨type, found⟩
      exact outside (Property.inNamespace_of_type? found)
    exact ⟨PropertyName.check_of_outside outside, PropertyValue.check_of_unknown unknown⟩

theorem property_rules_share_namespace_level :
    let attr : Attribute := ⟨"ARIA-Level", some (.literal (.string "two"))⟩
    let element : Element := ⟨"h1", [attr]⟩
    Property.InNamespace attr.name ∧
      Rule.propertyName.checkAttribute .empty element attr = none ∧
      Rule.propertyValue.checkAttribute .empty element attr =
        some (.wrongType "ARIA-Level" .integer) := by
  intro attr element
  have inNamespace : Property.InNamespace attr.name := by decide
  have misfits : attr.Misfits .integer := ⟨.string "two", rfl, by decide +kernel⟩
  have isInteger : (Text.lower attr.name, PropertyType.integer) ∈ Property.catalogue := by
    decide +kernel
  rcases (property_rules_share_namespace .empty element attr).1 inNamespace with
    ⟨type, listed, nameSilent, judged⟩ | ⟨unlisted, _⟩
  · rw [← Property.type?_eq_some_iff] at listed isInteger
    rw [listed] at isInteger
    cases isInteger
    rcases judged with ⟨_, reported⟩ | ⟨fits, _⟩
    · exact ⟨inNamespace, nameSilent, reported⟩
    · exact absurd misfits fits
  · exact absurd isInteger (unlisted _)

end AccessAudit
