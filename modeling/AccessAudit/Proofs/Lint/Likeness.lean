import AccessAudit.Lint.Linter
import AccessAudit.Proofs.Text.LetterCase
import Mathlib.Control.Basic
import Mathlib.Data.List.Find
import Mathlib.Data.Option.Basic

/-!
# What the rules see of an element

Rules look attributes up by their names, ignoring case, and see the first one of a name only. This
file proves that they see no more: two elements are judged alike if their tags agree ignoring case
and what is read under each name is the same, or two strings that agree ignoring case. How names
are spelled and how attributes of different names are ordered has no part in it.

What is found may cite the tag of the element, or the name of the attribute, as it is written there.
Findings on elements that are alike differ in this citation only (`Finding.citing`), and the
citation is not even different where the spelling is the same.
-/

namespace AccessAudit

/-- The readings are the same, or strings that agree ignoring case. -/
inductive Reading.Alike : Reading → Reading → Prop where
  | refl (reading : Reading) : Alike reading reading
  | strings {left right : String} (agree : Text.lower left = Text.lower right) :
      Alike (.known (.string left)) (.known (.string right))

namespace Reading.Alike

variable {left right : Reading}

theorem isAbsent_eq (alike : left.Alike right) : right.isAbsent = left.isAbsent := by
  cases alike <;> rfl

theorem isBound_eq (alike : left.Alike right) : right.isBound = left.isBound := by
  cases alike <;> rfl

theorem isDefined_eq (alike : left.Alike right) : right.isDefined = left.isDefined := by
  cases alike <;> rfl

theorem isTrue_eq (alike : left.Alike right) : right.isTrue = left.isTrue := by
  cases alike with
  | refl => rfl
  | strings agree => simp [isTrue, Text.eqIgnoringCase, agree]

theorem equals_eq (alike : left.Alike right) (expected : String) :
    right.equals expected = left.equals expected := by
  cases alike with
  | refl => rfl
  | strings agree => simp [equals, text?, Value.isNullish, Value.text, Text.eqIgnoringCase, agree]

theorem lower_text? (alike : left.Alike right) :
    left.text?.map Text.lower = right.text?.map Text.lower := by
  cases alike with
  | refl => rfl
  | strings agree => simp [text?, Value.isNullish, Value.text, agree]

/-- A known value other than `undefined` stays one. -/
theorem isKnown_eq (alike : left.Alike right) :
    right.value?.any (· != .undefined) = left.value?.any (· != .undefined) := by
  cases alike <;> rfl

end Reading.Alike

namespace Attribute

/-- What is read under each name is alike. -/
def ReadAlike (left right : List Attribute) : Prop :=
  ∀ name, (readingOf left name).Alike (readingOf right name)

theorem isAbsent_reading (attr : Attribute) : attr.reading.isAbsent = false := by
  unfold reading
  split
  · rfl
  · split <;> rfl

theorem isSome_find? (attributes : List Attribute) (name : String) :
    (find? attributes name).isSome = !(readingOf attributes name).isAbsent := by
  cases found : find? attributes name with
  | none => simp [readingOf, found, Reading.isAbsent]
  | some attr => simp [readingOf, found, isAbsent_reading]

theorem ReadAlike.lower_roleText? {left right : List Attribute} (alike : ReadAlike left right) :
    (roleText? left).map Text.lower = (roleText? right).map Text.lower :=
  (alike "role").lower_text?

/-- The names agree ignoring case and what is read is the same; of roles it may also be two strings
that agree ignoring case. -/
structure Alike (left right : Attribute) : Prop where
  name : Text.lower left.name = Text.lower right.name
  reading : left.reading = right.reading ∨
    left.isNamed "role" = true ∧ left.reading.Alike right.reading

namespace Alike

variable {left right : Attribute}

theorem refl (attr : Attribute) : attr.Alike attr :=
  ⟨rfl, .inl rfl⟩

theorem isNamed_eq (alike : left.Alike right) (name : String) :
    right.isNamed name = left.isNamed name := by
  simp [isNamed, Text.eqIgnoringCase, alike.name]

theorem readAlike (alike : left.Alike right) : left.reading.Alike right.reading := by
  rcases alike.reading with same | ⟨_, readAlike⟩
  · rw [same]
    exact .refl _
  · exact readAlike

theorem reading_eq_of_ne_role (alike : left.Alike right) (noRole : Text.lower left.name ≠ "role") :
    right.reading = left.reading := by
  rcases alike.reading with same | ⟨isRole, _⟩
  · exact same.symm
  · exact absurd (Text.eqIgnoringCase_iff.mp isRole) noRole

end Alike
end Attribute

/-- The tags agree ignoring case, and what is read under each name is alike. -/
structure Element.Alike (left right : Element) : Prop where
  tag : Text.lower left.tag = Text.lower right.tag
  attributes : Attribute.ReadAlike left.attributes right.attributes

namespace Element.Alike

variable {left right : Element}

theorem refl (element : Element) : element.Alike element :=
  ⟨rfl, fun _ => .refl _⟩

/-- Elements of one tag on which the same attributes are found are alike. -/
theorem of_find? (sameTag : right.tag = left.tag)
    (sameFirst : ∀ name, Attribute.find? right.attributes name =
      Attribute.find? left.attributes name) : left.Alike right := by
  refine ⟨by rw [sameTag], ?_⟩
  intro name
  rw [Attribute.readingOf, Attribute.readingOf, sameFirst]
  exact .refl _

theorem has_eq (alike : left.Alike right) : right.has = left.has := by
  funext name
  have absent := (alike.attributes name).isAbsent_eq
  simp [has, find?, Attribute.isSome_find?, absent]

theorem isKnown_eq (alike : left.Alike right) :
    Vocabulary.isKnown right.tag = Vocabulary.isKnown left.tag := by
  simp [Vocabulary.isKnown, Text.eqIgnoringCase, alike.tag]

theorem covers_eq (alike : left.Alike right) (exemptions : Exemptions) (name : String) :
    exemptions.covers right.tag name = exemptions.covers left.tag name := by
  simp [Exemptions.covers, alike.tag]

end Element.Alike

section Semantics

variable {ontology : Ontology} {left right : Element}

@[simp]
theorem Ontology.role?_lower (name : String) :
    ontology.role? (Text.lower name) = ontology.role? name := by
  simp [role?]

@[simp]
theorem Ontology.concrete?_lower (name : String) :
    ontology.concrete? (Text.lower name) = ontology.concrete? name := by
  simp [concrete?]

theorem Constraint.holds_of_alike {left right : List Attribute}
    (alike : Attribute.ReadAlike left right) (constraint : Constraint) :
    constraint.holds right = constraint.holds left := by
  cases constraint with
  | present name => exact (alike name).isKnown_eq
  | equals name expected => exact (alike name).equals_eq expected

theorem Ontology.implicitRoles?_of_alike (alike : left.Alike right) :
    ontology.implicitRoles? right.tag right.attributes =
      ontology.implicitRoles? left.tag left.attributes := by
  simp only [implicitRoles?, implicitEntry?, ImplicitRole.matchesAttributes, alike.tag,
    Constraint.holds_of_alike alike.attributes]

theorem AttributeChoice.decide_of_alike (alike : left.Alike right) (choice : AttributeChoice) :
    choice.decide right.attributes = choice.decide left.attributes := by
  have passes : ∀ name,
      choice.test.passes (Attribute.readingOf right.attributes name) =
        choice.test.passes (Attribute.readingOf left.attributes name) := by
    intro name
    cases choice.test with
    | defined => exact (alike.attributes name).isDefined_eq
    | equals expected => exact (alike.attributes name).equals_eq expected
  simp only [decide, passes]

namespace Interactivity

@[simp]
theorem isPresentational_lower (name : String) :
    isPresentational (Text.lower name) = isPresentational name := by
  simp [isPresentational, Text.eqIgnoringCase]

theorem scanRoles_map_lower (resolved interactive : Bool) (names : List String) :
    scanRoles ontology resolved interactive (names.map Text.lower) =
      scanRoles ontology resolved interactive names := by
  induction names generalizing resolved interactive with
  | nil => rfl
  | cons name names ih => simp [scanRoles, ih]

theorem ofRoles_map_lower (names : List String) :
    ofRoles ontology (names.map Text.lower) = ofRoles ontology names :=
  scanRoles_map_lower false false names

theorem isHidden_of_alike (alike : left.Alike right) :
    isHidden right.tag right.attributes = isHidden left.tag left.attributes := by
  simp only [isHidden, Text.eqIgnoringCase, alike.tag, (alike.attributes "type").equals_eq,
    (alike.attributes "aria-hidden").isTrue_eq]

theorem isPresentation_of_alike (alike : left.Alike right) :
    isPresentation right.attributes = isPresentation left.attributes := by
  rcases Text.lower_cases alike.attributes.lower_roleText? with ⟨leftNone, rightNone⟩ |
    ⟨leftText, rightText, leftSaid, rightSaid, agree⟩
  · simp [isPresentation, leftNone, rightNone]
  · simp only [isPresentation, leftSaid, rightSaid, Option.any_some]
    exact Text.words_congr (fun names => names.any isPresentational)
      (by simp [Function.comp_def]) agree.symm

theorem classify_of_alike (alike : left.Alike right) :
    classify ontology right.tag right.attributes = classify ontology left.tag left.attributes := by
  rcases Text.lower_cases alike.attributes.lower_roleText? with ⟨leftNone, rightNone⟩ |
    ⟨leftText, rightText, leftSaid, rightSaid, agree⟩
  · simp only [classify, leftNone, rightNone, TagPolicy.of?, alike.tag,
      AttributeChoice.decide_of_alike alike, Ontology.implicitRoles?_of_alike alike]
  · simp only [classify, leftSaid, rightSaid]
    exact Text.words_congr (ofRoles ontology) ofRoles_map_lower agree.symm

end Interactivity

end Semantics

namespace Finding

/-- The finding with another text for the tag or the attribute name it cites. -/
def citing (text : String) : Finding → Finding
  | .missingAlternative _ => .missingAlternative text
  | .unknownProperty _ => .unknownProperty text
  | .redundantRole _ role => .redundantRole text role
  | .wrongType _ type => .wrongType text type
  | other => other

theorem lower_message_citing {left right : String} (agree : Text.lower left = Text.lower right)
    (finding : Finding) :
    Text.lower (finding.citing left).message = Text.lower (finding.citing right).message := by
  cases finding <;> simp only [citing, message.eq_def, Text.lower_append, agree]

end Finding

section Rules

variable {ontology : Ontology} {left right : Element}

theorem ImageText.check_of_alike {rule : ImageText} (alike : left.Alike right)
    (applies : rule.appliesTo right.tag = rule.appliesTo left.tag) :
    rule.check right = (rule.check left).map (Finding.citing right.tag) := by
  have bound : (right.reading "alt").isBound = (left.reading "alt").isBound :=
    (alike.attributes "alt").isBound_eq
  simp only [check, applies, bound]
  split <;> rfl

theorem HandlerPlacement.check_of_alike {rule : HandlerPlacement} (alike : left.Alike right) :
    rule.check ontology right = (rule.check ontology left).map (Finding.citing right.tag) := by
  have bound : ∀ handler, (right.reading handler).isBound = (left.reading handler).isBound :=
    fun handler => (alike.attributes handler).isBound_eq
  have sameHandler : rule.misplaced? ontology right = rule.misplaced? ontology left := by
    simp only [misplaced?, boundHandler?, alike.isKnown_eq, alike.covers_eq, bound,
      Interactivity.isHidden_of_alike alike, Interactivity.isPresentation_of_alike alike,
      Interactivity.classify_of_alike alike]
  simp [check, sameHandler, Function.comp_def, Finding.citing]

theorem RoleRedundancy.lower_explicitRole? (ontology : Ontology) (alike : left.Alike right) :
    (explicitRole? ontology left).map Text.lower =
      (explicitRole? ontology right).map Text.lower := by
  rcases Text.lower_cases alike.attributes.lower_roleText? with ⟨leftNone, rightNone⟩ |
    ⟨leftText, rightText, leftSaid, rightSaid, agree⟩
  · simp [explicitRole?, leftNone, rightNone]
  · simp only [explicitRole?, leftSaid, rightSaid, Option.bind_eq_bind, Option.bind_some]
    exact Text.words_congr (fun names =>
        (names.find? fun word => (ontology.role? word).isSome).map Text.lower)
      (by simp [List.find?_map, Function.comp_def]) agree

theorem RoleRedundancy.check_of_alike {rule : RoleRedundancy} (alike : left.Alike right) :
    rule.check ontology right = (rule.check ontology left).map (Finding.citing right.tag) := by
  have meant : ontology.implicitRole? right.tag right.attributes =
      ontology.implicitRole? left.tag left.attributes := by
    simp only [Ontology.implicitRole?, Ontology.implicitRoles?_of_alike alike]
  rcases Text.lower_cases (lower_explicitRole? ontology alike) with
    ⟨leftNone, rightNone⟩ | ⟨leftWord, rightWord, leftSaid, rightSaid, agree⟩
  · simp [check, leftNone, rightNone]
  · have sameAs : ∀ implicit,
        Text.eqIgnoringCase rightWord implicit = Text.eqIgnoringCase leftWord implicit := by
      simp [Text.eqIgnoringCase, agree]
    simp [check, alike.isKnown_eq, meant, alike.covers_eq, leftSaid, rightSaid, sameAs,
      Option.map_bind, Function.comp_def, Finding.citing]

variable {attr other : Attribute}

theorem PropertyName.check_of_alike (alike : attr.Alike other) :
    check other = (check attr).map (Finding.citing other.name) := by
  have sameBeginning : looksLikeProperty other.name = looksLikeProperty attr.name := by
    have chars := congrArg String.toList alike.name
    simp only [Text.toList_lower] at chars
    simp [looksLikeProperty, Text.eqIgnoringCase, Text.lower, List.map_take, chars]
  have sameKnown : Property.isKnown other.name = Property.isKnown attr.name := by
    simp only [Property.isKnown, Property.type?, alike.name]
  simp only [check, sameBeginning, sameKnown]
  split <;> rfl

theorem PropertyValue.check_of_alike (alike : attr.Alike other) :
    check other = (check attr).map (Finding.citing other.name) := by
  have sameType : Property.type? other.name = Property.type? attr.name := by
    simp only [Property.type?, alike.name]
  cases type : Property.type? attr.name with
  | none => simp [check, sameType, type]
  | some type =>
      have noRole : Text.lower attr.name ≠ "role" := by
        intro isRole
        rw [Property.type?, isRole] at type
        cases type
      simp [check, Property.isValid, sameType, type, alike.reading_eq_of_ne_role noRole,
        Option.map_bind, Function.comp_def, Finding.citing]

theorem TabOrder.check_of_alike (alike : attr.Alike other) :
    check other = (check attr).map (Finding.citing other.name) := by
  cases named : attr.isNamed "tabIndex" with
  | false => simp [check, alike.isNamed_eq, named]
  | true =>
      have noRole : Text.lower attr.name ≠ "role" := by
        rw [Text.eqIgnoringCase_iff.mp named]
        decide
      simp [check, alike.isNamed_eq, named, alike.reading_eq_of_ne_role noRole,
        Option.map_bind, Function.comp_def, Finding.citing]

theorem RoleName.check_of_alike (alike : attr.Alike other) :
    check ontology other = (check ontology attr).map (Finding.citing other.name) := by
  rcases Text.lower_cases alike.readAlike.lower_text? with ⟨leftNone, rightNone⟩ |
    ⟨leftText, rightText, leftSaid, rightSaid, agree⟩
  · simp [check, leftNone, rightNone]
  · have sameValid : isValid ontology (Text.words rightText) =
        isValid ontology (Text.words leftText) :=
      Text.words_congr (isValid ontology) (by simp [isValid, Function.comp_def]) agree.symm
    simp [check, alike.isNamed_eq, leftSaid, rightSaid, sameValid, Option.map_bind,
      Function.comp_def, Finding.citing]

@[simp]
theorem RequiredProperty.unmet?_lower (element : Element) (word : String) :
    unmet? ontology element (Text.lower word) = unmet? ontology element word := by
  simp [unmet?]

theorem RequiredProperty.check_of_alike (alike : left.Alike right) (attrAlike : attr.Alike other) :
    check ontology right other = (check ontology left attr).map (Finding.citing other.name) := by
  rcases Text.lower_cases attrAlike.readAlike.lower_text? with ⟨leftNone, rightNone⟩ |
    ⟨leftText, rightText, leftSaid, rightSaid, agree⟩
  · simp [check, leftNone, rightNone]
  · have sameUnmet : unmet? ontology right = unmet? ontology left := by
      funext word
      simp only [unmet?, alike.has_eq]
    have sameRole : (Text.words rightText).findSome? (unmet? ontology left) =
        (Text.words leftText).findSome? (unmet? ontology left) :=
      Text.words_congr (fun names => names.findSome? (unmet? ontology left))
        (by simp [List.findSome?_map, Function.comp_def]) agree.symm
    simp [check, attrAlike.isNamed_eq, leftSaid, rightSaid, sameUnmet, sameRole, Option.map_bind,
      Function.comp_def, Finding.citing]

end Rules

namespace Rule

variable {ontology : Ontology} {left right : Element} {rule : Rule}

/-- The rule on images is about both tags or neither; components are told apart by exact names. -/
def AppliesAlike (rule : Rule) (left right : Element) : Prop :=
  ∀ images, rule = .imageText images → images.appliesTo right.tag = images.appliesTo left.tag

theorem checkElement_of_alike (alike : left.Alike right) (applies : rule.AppliesAlike left right) :
    rule.checkElement ontology right =
      (rule.checkElement ontology left).map (Finding.citing right.tag) := by
  cases rule with
  | imageText rule => exact rule.check_of_alike alike (applies rule rfl)
  | handlerPlacement rule => exact rule.check_of_alike alike
  | roleRedundancy rule => exact rule.check_of_alike alike
  | _ => rfl

theorem checkAttribute_of_alike {attr other : Attribute} (alike : left.Alike right)
    (attrAlike : attr.Alike other) :
    rule.checkAttribute ontology right other =
      (rule.checkAttribute ontology left attr).map (Finding.citing other.name) := by
  cases rule with
  | propertyName => exact PropertyName.check_of_alike attrAlike
  | requiredProperty => exact RequiredProperty.check_of_alike alike attrAlike
  | tabOrder => exact TabOrder.check_of_alike attrAlike
  | propertyValue => exact PropertyValue.check_of_alike attrAlike
  | roleName => exact RoleName.check_of_alike attrAlike
  | _ => rfl

/-- Where the tag is spelled the same, so is the citation of it. -/
theorem checkElement_eq_of_alike (alike : left.Alike right) (sameTag : right.tag = left.tag) :
    rule.checkElement ontology right = rule.checkElement ontology left := by
  have applies : rule.AppliesAlike left right := by
    intro images _
    rw [sameTag]
  have onItself : rule.checkElement ontology left =
      (rule.checkElement ontology left).map (Finding.citing left.tag) :=
    checkElement_of_alike (.refl left) fun _ _ => rfl
  rw [checkElement_of_alike alike applies, sameTag, ← onItself]

theorem checkAttribute_eq_of_alike (alike : left.Alike right) (attr : Attribute) :
    rule.checkAttribute ontology right attr = rule.checkAttribute ontology left attr := by
  rw [checkAttribute_of_alike alike (.refl attr),
    ← checkAttribute_of_alike (.refl left) (.refl attr)]

end Rule
end AccessAudit
