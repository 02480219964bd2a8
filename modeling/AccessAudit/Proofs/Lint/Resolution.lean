import AccessAudit.Lint.Rule
import AccessAudit.Proofs.Interaction.Classification
import AccessAudit.Proofs.Lint.Objection

/-!
# Reports on elements with unknown values

Two rules go by what an element means: the one on repeated roles and the one on handlers. This file
proves what becomes of their reports when values that are not known turn out to be strings.

Both rules decide on elements of which not everything is known, and treat what is unknown as if it
were not there. So an image with an unknown alternative text is taken for an image, although with
an empty one it is presentation; and an element with an unknown role is judged by its tag. A report
stands nevertheless, unless a value turns out to be one of those that would have made a difference
(`Rule.Overturned`), and then it does not.
-/

namespace AccessAudit

namespace Attribute

/-- The second attribute is the first one, or has a string for a value that is not known. -/
def Resolves (attr resolved : Attribute) : Prop :=
  resolved = attr ∨ (attr.reading = .unknown ∧
    ∃ text, resolved = { attr with value := some (.literal (.string text)) })

theorem Resolves.readingOf {attributes resolved : List Attribute}
    (resolves : List.Forall₂ Resolves attributes resolved) (name : String) :
    Attribute.readingOf resolved name = Attribute.readingOf attributes name ∨
      ∃ text, Attribute.readingOf attributes name = .unknown ∧
        Attribute.readingOf resolved name = .known (.string text) := by
  induction resolves with
  | nil => exact .inl rfl
  | @cons attr filled _ _ first _ ih =>
      have sameName : filled.isNamed name = attr.isNamed name := by
        rcases first with rfl | ⟨_, text, rfl⟩ <;> rfl
      simp only [Attribute.readingOf, Attribute.find?, List.find?_cons, sameName] at ih ⊢
      cases attr.isNamed name with
      | false => exact ih
      | true =>
          rcases first with rfl | ⟨unknown, text, rfl⟩
          · exact .inl rfl
          · exact .inr ⟨text, unknown, rfl⟩

end Attribute

namespace Element

variable {unresolved resolved : Element} {name : String}

/-- The second element is the first one with strings for some of the values that are not known. -/
structure Resolves (unresolved resolved : Element) : Prop where
  tag : resolved.tag = unresolved.tag
  attributes : List.Forall₂ Attribute.Resolves unresolved.attributes resolved.attributes

/-- The attribute is not known in the first element, and this string in the second one. -/
def Fills (unresolved resolved : Element) (name text : String) : Prop :=
  unresolved.reading name = .unknown ∧ resolved.reading name = .known (.string text)

namespace Resolves

theorem reading_cases (resolves : unresolved.Resolves resolved) (name : String) :
    resolved.reading name = unresolved.reading name ∨
      ∃ text, unresolved.Fills resolved name text :=
  Attribute.Resolves.readingOf resolves.attributes name

theorem reading_of_known (resolves : unresolved.Resolves resolved) {value : Value}
    (known : unresolved.reading name = .known value) :
    resolved.reading name = .known value := by
  rcases resolves.reading_cases name with same | ⟨text, unknown, _⟩
  · rw [same, known]
  · rw [known] at unknown
    cases unknown

/-- What was not the case of a value and is now, is so because of a string that was filled in. -/
theorem test_iff (resolves : unresolved.Resolves resolved) (test : Reading → Bool)
    (failed : test (unresolved.reading name) = false) :
    test (resolved.reading name) = true ↔
      ∃ text, unresolved.Fills resolved name text ∧ test (.known (.string text)) = true := by
  constructor
  · intro passed
    rcases resolves.reading_cases name with same | ⟨text, fills⟩
    · rw [same, failed] at passed
      cases passed
    · rw [fills.2] at passed
      exact ⟨text, fills, passed⟩
  · rintro ⟨text, fills, passed⟩
    rw [fills.2]
    exact passed

theorem isBound (resolves : unresolved.Resolves resolved)
    (bound : (unresolved.reading name).isBound = true) :
    (resolved.reading name).isBound = true := by
  rcases resolves.reading_cases name with same | ⟨text, fills⟩
  · rw [same, bound]
  · rw [fills.2]
    rfl

end Resolves
end Element

namespace RoleRedundancy

variable {unresolved resolved : Element} {rule : RoleRedundancy} {finding : Finding}

/-- A string turns a switch between roles that was in its usual position. -/
def Overturned (unresolved resolved : Element) : Prop :=
  ∃ switch ∈ RoleSwitch.standard, Text.lower unresolved.tag = switch.tag ∧
    ∃ text, unresolved.Fills resolved switch.attributeName text ∧
      ∃ value ∈ switch.values, Text.eqIgnoringCase text value = true

theorem explicitRole?_of_resolves {explicit : String} (resolves : unresolved.Resolves resolved)
    (said : explicitRole? .standard unresolved = some explicit) :
    explicitRole? .standard resolved = some explicit := by
  have sameText : Attribute.roleText? resolved.attributes =
      Attribute.roleText? unresolved.attributes := by
    cases known : unresolved.reading "role" with
    | known value =>
        have sameReading := resolves.reading_of_known known
        simp only [Element.reading] at known sameReading
        simp [Attribute.roleText?, known, sameReading]
    | _ =>
        simp only [Element.reading] at known
        simp [explicitRole?, Attribute.roleText?, known, Reading.text?] at said
  rw [← said, explicitRole?, explicitRole?, sameText]

/-- The implicit role is another one if a switch is turned, and else the same. -/
theorem implicitRole?_of_resolves {role : String} (resolves : unresolved.Resolves resolved)
    (meant : Ontology.standard.implicitRole? unresolved.tag unresolved.attributes = some role) :
    ∃ now, Ontology.standard.implicitRole? resolved.tag resolved.attributes = some now ∧
      (Overturned unresolved resolved → Text.eqIgnoringCase now role = false) ∧
      (¬Overturned unresolved resolved → now = role) := by
  rw [resolves.tag]
  by_cases overturned : Overturned unresolved resolved
  · simp only [overturned, not_true_eq_false, true_imp_iff, false_imp_iff, and_true]
    rcases overturned with ⟨switch, listed, isTag, text, ⟨unknown, filled⟩, turns⟩
    simp only [Element.reading] at unknown filled
    have wasUsual := RoleSwitch.implicitRole?_of_not_isThrown listed isTag
      (by rw [unknown, RoleSwitch.isThrown_unknown])
    rcases RoleSwitch.implicitRole?_eq listed isTag resolved.attributes with
      ⟨now, nowMeant, isOther⟩
    rw [filled, if_pos (RoleSwitch.isThrown_string.mpr turns)] at isOther
    rw [meant] at wasUsual
    cases wasUsual
    exact ⟨now, nowMeant, isOther⟩
  · refine ⟨role, ?_, fun contrary => absurd contrary overturned, fun _ => rfl⟩
    by_cases switched : ∃ switch ∈ RoleSwitch.standard, Text.lower unresolved.tag = switch.tag
    · rcases switched with ⟨switch, listed, isTag⟩
      rcases resolves.reading_cases switch.attributeName with same | ⟨text, unknown, filled⟩
      · rw [RoleSwitch.implicitRole?_congr listed isTag same]
        exact meant
      · have notTurned : switch.isThrown (.known (.string text)) = false := by
          rw [← Bool.not_eq_true]
          intro thrown
          exact overturned ⟨switch, listed, isTag, text, ⟨unknown, filled⟩,
            RoleSwitch.isThrown_string.mp thrown⟩
        simp only [Element.reading] at unknown filled
        rw [RoleSwitch.implicitRole?_of_not_isThrown listed isTag
          (by rw [unknown, RoleSwitch.isThrown_unknown])] at meant
        rw [RoleSwitch.implicitRole?_of_not_isThrown listed isTag (by rw [filled, notTurned])]
        exact meant
    · refine RoleSwitch.implicitRole?_of_no_switch ?_ ?_ meant
      · intro switch listed isTag
        exact switched ⟨switch, listed, isTag.symm⟩
      · intro name value known
        exact resolves.reading_of_known known

theorem check_of_resolves (resolves : unresolved.Resolves resolved)
    (reported : rule.check .standard unresolved = some finding) :
    (¬Overturned unresolved resolved → rule.check .standard resolved = some finding) ∧
      (Overturned unresolved resolved → rule.check .standard resolved = none) := by
  rcases check_eq_some_iff.mp reported with
    ⟨known, explicit, implicit, said, meant, same, notExempt, rfl⟩
  have nowSaid := explicitRole?_of_resolves resolves said
  rcases implicitRole?_of_resolves resolves meant with ⟨now, nowMeant, changed, kept⟩
  constructor
  · intro stands
    rw [kept stands] at nowMeant
    rw [← resolves.tag] at known notExempt ⊢
    exact check_eq_some_iff.mpr
      ⟨known, explicit, implicit, nowSaid, nowMeant, same, notExempt, rfl⟩
  · intro overturned
    rw [Option.eq_none_iff_forall_ne_some]
    intro other nowReported
    rcases check_eq_some_iff.mp nowReported with ⟨_, _, _, stillSaid, stillMeant, stillSame, _⟩
    rw [nowSaid] at stillSaid
    rw [nowMeant] at stillMeant
    cases stillSaid
    cases stillMeant
    have differs := changed overturned
    rw [Text.eqIgnoringCase_iff] at same stillSame
    rw [Text.eqIgnoringCase_iff.mpr (stillSame.symm.trans same)] at differs
    cases differs

end RoleRedundancy

namespace HandlerPlacement

variable {unresolved resolved : Element} {rule : HandlerPlacement} {finding : Finding}

/-- A string hides the element. -/
def Hides (unresolved resolved : Element) : Prop :=
  (Text.eqIgnoringCase unresolved.tag "input" = true ∧ ∃ text,
    unresolved.Fills resolved "type" text ∧ Text.eqIgnoringCase text "hidden" = true) ∨
  ∃ text, unresolved.Fills resolved "aria-hidden" text ∧ Text.eqIgnoringCase text "true" = true

/-- The text names a concrete role, and no role that is interactive or presentational. -/
def NamesStaticRole (text : String) : Prop :=
  (∃ word ∈ Text.words text, (Ontology.standard.concrete? word).isSome = true) ∧
    ∀ word ∈ Text.words text, Interactivity.isPresentational word = false ∧
      Ontology.standard.isInteractive word = false

/-- A string hides the element, or is a role that does not make it static content. -/
def Overturned (unresolved resolved : Element) : Prop :=
  Hides unresolved resolved ∨
    ∃ text, unresolved.Fills resolved "role" text ∧ ¬NamesStaticRole text

theorem isHidden_iff_hides (resolves : unresolved.Resolves resolved)
    (perceived : Interactivity.isHidden unresolved.tag unresolved.attributes = false) :
    Interactivity.isHidden resolved.tag resolved.attributes = true ↔
      Hides unresolved resolved := by
  simp only [Interactivity.isHidden, Bool.or_eq_false_iff] at perceived
  rcases perceived with ⟨notHiddenInput, notTrue⟩
  have nowTrue := resolves.test_iff Reading.isTrue notTrue
  simp only [Interactivity.isHidden, resolves.tag, Bool.or_eq_true, Bool.and_eq_true]
  refine or_congr (and_congr_right fun isInput => ?_) nowTrue
  rw [isInput, Bool.true_and] at notHiddenInput
  exact resolves.test_iff (·.equals "hidden") notHiddenInput

theorem static_iff_of_fills {text : String} (fills : unresolved.Fills resolved "role" text) :
    (Interactivity.isPresentation resolved.attributes = false ∧
      Interactivity.classify .standard resolved.tag resolved.attributes = .nonInteractive) ↔
      NamesStaticRole text := by
  have explicit : Attribute.roleText? resolved.attributes = some text := by
    have filled := fills.2
    rw [Element.reading] at filled
    rw [Attribute.roleText?, filled]
    rfl
  have semantic_iff : Interactivity.isPresentation resolved.attributes = false ↔
      ∀ word ∈ Text.words text, Interactivity.isPresentational word = false := by
    simp [Interactivity.isPresentation, explicit]
  rw [semantic_iff, Interactivity.classify_of_roleText? explicit]
  constructor
  · rintro ⟨semantic, classified⟩
    rcases (Interactivity.ofRoles_eq_nonInteractive_iff semantic).mp classified with
      ⟨concrete, noneInteractive⟩
    exact ⟨concrete, fun word member => ⟨semantic word member, noneInteractive word member⟩⟩
  · rintro ⟨concrete, eachStatic⟩
    have semantic := fun word member => (eachStatic word member).1
    exact ⟨semantic, (Interactivity.ofRoles_eq_nonInteractive_iff semantic).mpr
      ⟨concrete, fun word member => (eachStatic word member).2⟩⟩

/-- Static content whose role does not change remains static content: its other attributes have no
part in this. -/
theorem static_of_same_role (resolves : unresolved.Resolves resolved)
    (sameRole : resolved.reading "role" = unresolved.reading "role")
    (perceived : Interactivity.isHidden unresolved.tag unresolved.attributes = false)
    (semantic : Interactivity.isPresentation unresolved.attributes = false)
    (classified : Interactivity.classify .standard unresolved.tag unresolved.attributes =
      .nonInteractive) :
    Interactivity.isPresentation resolved.attributes = false ∧
      Interactivity.classify .standard resolved.tag resolved.attributes = .nonInteractive := by
  have sameText : Attribute.roleText? resolved.attributes =
      Attribute.roleText? unresolved.attributes := congrArg Reading.text? sameRole
  constructor
  · rw [Interactivity.isPresentation, sameText]
    exact semantic
  · rw [resolves.tag]
    cases explicit : Attribute.roleText? unresolved.attributes with
    | some role =>
        rw [Interactivity.classify_of_roleText? explicit] at classified
        rw [Interactivity.classify_of_roleText? (sameText.trans explicit), classified]
    | none =>
        exact Interactivity.classify_of_no_role explicit (sameText.trans explicit) perceived
          classified

theorem check_of_resolves (resolves : unresolved.Resolves resolved)
    (reported : rule.check .standard unresolved = some finding) :
    (¬Overturned unresolved resolved → rule.check .standard resolved = some finding) ∧
      (Overturned unresolved resolved → rule.check .standard resolved = none) := by
  rcases check_eq_some_iff.mp reported with
    ⟨known, ⟨handler, configured, notExempt, bound⟩, perceived, semantic, classified, rfl⟩
  have hidden_iff := isHidden_iff_hides resolves perceived
  constructor
  · intro stands
    have shown : Interactivity.isHidden resolved.tag resolved.attributes = false := by
      rw [← Bool.not_eq_true, hidden_iff]
      exact fun hides => stands (.inl hides)
    have static : Interactivity.isPresentation resolved.attributes = false ∧
        Interactivity.classify .standard resolved.tag resolved.attributes = .nonInteractive := by
      rcases resolves.reading_cases "role" with sameRole | ⟨text, fills⟩
      · exact static_of_same_role resolves sameRole perceived semantic classified
      · refine (static_iff_of_fills fills).mpr (Classical.not_not.mp fun other => ?_)
        exact stands (.inr ⟨text, fills, other⟩)
    rw [← resolves.tag] at known notExempt
    exact check_eq_some_iff.mpr ⟨known, ⟨handler, configured, notExempt, resolves.isBound bound⟩,
      shown, static.1, static.2, rfl⟩
  · intro overturned
    rw [Option.eq_none_iff_forall_ne_some]
    intro other nowReported
    rcases check_eq_some_iff.mp nowReported with ⟨_, _, shown, nowSemantic, nowClassified, _⟩
    rcases overturned with hides | ⟨text, fills, notStatic⟩
    · rw [hidden_iff.mpr hides] at shown
      cases shown
    · exact notStatic ((static_iff_of_fills fills).mp ⟨nowSemantic, nowClassified⟩)

end HandlerPlacement

namespace Rule

variable {unresolved resolved : Element} {rule : Rule} {finding : Finding}

/-- A string that was not known speaks against a report of the rule. -/
def Overturned : Rule → Element → Element → Prop
  | .roleRedundancy _ => RoleRedundancy.Overturned
  | .handlerPlacement _ => HandlerPlacement.Overturned
  | _ => fun _ _ => False

/-- A report stands when values turn out to be strings, unless one of these speaks against it. -/
theorem checkElement_of_resolves
    (semantic : rule.id = .roleRedundancy ∨ rule.id = .handlerPlacement)
    (resolves : unresolved.Resolves resolved)
    (reported : rule.checkElement .standard unresolved = some finding) :
    (¬rule.Overturned unresolved resolved →
        rule.checkElement .standard resolved = some finding) ∧
      (rule.Overturned unresolved resolved → rule.checkElement .standard resolved = none) := by
  cases rule with
  | roleRedundancy rule => exact RoleRedundancy.check_of_resolves resolves reported
  | handlerPlacement rule => exact HandlerPlacement.check_of_resolves resolves reported
  | _ => simp [id] at semantic

/-- An article with a handler, of which is said whether it is hidden. -/
def clickableArticle (hidden : Expression) : Element :=
  ⟨"article", [⟨"onClick", some .dynamic⟩, ⟨"aria-hidden", some hidden⟩]⟩

theorem clickableArticle_resolves (text : String) :
    (clickableArticle .dynamic).Resolves (clickableArticle (.literal (.string text))) :=
  ⟨rfl, .cons (.inl rfl) (.cons (.inr ⟨rfl, text, rfl⟩) .nil)⟩

theorem checkElement_clickableArticle (ontology : Ontology) :
    (Rule.ofOptions .handlerPlacement none).checkElement ontology (clickableArticle .dynamic) =
      some .misplacedHandler := by
  have judged : Interactivity.classify ontology "article" (clickableArticle .dynamic).attributes =
      .nonInteractive := Interactivity.classify_of_neverInteractive rfl rfl ontology
  exact HandlerPlacement.check_eq_some_iff.mpr
    ⟨by decide, ⟨"onClick", by decide, rfl, rfl⟩, rfl, rfl, judged, rfl⟩

theorem checkElement_of_resolves_article :
    let rule := Rule.ofOptions .handlerPlacement none
    rule.checkElement .standard (clickableArticle .dynamic) = some .misplacedHandler ∧
      rule.checkElement .standard (clickableArticle (.literal (.string "false"))) =
        some .misplacedHandler ∧
      rule.checkElement .standard (clickableArticle (.literal (.string "TRUE"))) = none := by
  intro rule
  have outcome := fun text => checkElement_of_resolves (.inr rfl) (clickableArticle_resolves text)
    (checkElement_clickableArticle .standard)
  refine ⟨checkElement_clickableArticle .standard, (outcome "false").1 ?_, (outcome "TRUE").2 ?_⟩
  · rintro ((⟨isInput, _⟩ | ⟨text, ⟨_, filled⟩, isTrue⟩) | ⟨text, ⟨unknown, _⟩, _⟩)
    · cases isInput
    · cases filled
      cases isTrue
    · cases unknown
  · exact .inl (.inr ⟨"TRUE", ⟨rfl, rfl⟩, by decide⟩)

/-- An image that says it is one. -/
def statedImage (alternative : Expression) : Element :=
  ⟨"img", [⟨"role", some (.literal (.string "img"))⟩, ⟨"alt", some alternative⟩]⟩

theorem checkElement_statedImage :
    (Rule.ofOptions .roleRedundancy none).checkElement .standard (statedImage .dynamic) =
      some (.redundantRole "img" "img") := by
  have said : RoleRedundancy.explicitRole? .standard (statedImage .dynamic) = some "img" := by
    have declared : (Ontology.standard.role? "img").isSome = true := by
      rw [Ontology.role?_standard_isSome]
      decide +kernel
    have written : Attribute.roleText? (statedImage .dynamic).attributes = some "img" := rfl
    have oneWord : Text.words "img" = ["img"] := by decide +kernel
    simp [RoleRedundancy.explicitRole?, written, oneWord, declared]
  have meant : Ontology.standard.implicitRole? "img" (statedImage .dynamic).attributes =
      some "img" :=
    RoleSwitch.implicitRole?_of_not_isThrown (List.mem_cons_self ..) (by decide) rfl
  exact RoleRedundancy.check_eq_some_iff.mpr
    ⟨by decide +kernel, "img", "img", said, meant, by decide, rfl, rfl⟩

/-- A report may be overturned: the article may turn out to be hidden, and the image to be mere
presentation. -/
theorem checkElement_overturned :
    ((clickableArticle .dynamic).Resolves (clickableArticle (.literal (.string "true"))) ∧
      (Rule.ofOptions .handlerPlacement none).checkElement .standard (clickableArticle .dynamic) =
        some .misplacedHandler ∧
      (Rule.ofOptions .handlerPlacement none).checkElement .standard
        (clickableArticle (.literal (.string "true"))) = none) ∧
    ((statedImage .dynamic).Resolves (statedImage (.literal (.string ""))) ∧
      (Rule.ofOptions .roleRedundancy none).checkElement .standard (statedImage .dynamic) =
        some (.redundantRole "img" "img") ∧
      (Rule.ofOptions .roleRedundancy none).checkElement .standard
        (statedImage (.literal (.string ""))) = none) := by
  have imageResolves : (statedImage .dynamic).Resolves (statedImage (.literal (.string ""))) :=
    ⟨rfl, .cons (.inl rfl) (.cons (.inr ⟨rfl, "", rfl⟩) .nil)⟩
  have switched : RoleRedundancy.Overturned (statedImage .dynamic)
      (statedImage (.literal (.string ""))) :=
    ⟨_, List.mem_cons_self .., by decide, "", ⟨rfl, rfl⟩, "", List.mem_singleton_self _, rfl⟩
  have hides : HandlerPlacement.Overturned (clickableArticle .dynamic)
      (clickableArticle (.literal (.string "true"))) :=
    .inl (.inr ⟨"true", ⟨rfl, rfl⟩, rfl⟩)
  refine ⟨⟨clickableArticle_resolves "true", checkElement_clickableArticle .standard, ?_⟩,
    imageResolves, checkElement_statedImage, ?_⟩
  · exact (HandlerPlacement.check_of_resolves (clickableArticle_resolves "true")
      (checkElement_clickableArticle .standard)).2 hides
  · exact (RoleRedundancy.check_of_resolves imageResolves checkElement_statedImage).2 switched

end Rule
end AccessAudit
