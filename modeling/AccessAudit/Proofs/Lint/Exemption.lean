import AccessAudit.Proofs.Lint.Objection
import AccessAudit.Proofs.Lint.OptionForm

/-!
# Which exemptions are in force

Options list exempt names under keys, and a key stands for a tag in any letters. Several keys may
stand for one tag, for they need only differ in the case of a letter. The last of them is the one
that counts (`Exemptions.covers_ofMembers`), and what the others list is not exempt.

This file proves that the two rules with exemptions are silent exactly where the exemptions in
force say so, or where they have nothing to object to in the first place. Where one key stands for
a tag, all that is listed for the tag is in force (`Exemptions.inForce_iff_lists`).
-/

namespace AccessAudit

namespace OptionShape

/-- The members of a table that fits its shape are lists. -/
theorem array_of_check {keys : List String} {tags : Bool} {members : List (String × Json)}
    (fits : (table keys tags).check (some (.object members)) = .ok ()) {key : String} {names : Json}
    (member : (key, names) ∈ members) : ∃ items, names = .array items := by
  rcases (isTable_of_table fits).2 (key, names) member with ⟨_, listed, _⟩
  exact ⟨_, listed⟩

theorem mem_namesOf_array {name : String} {items : List Json} :
    name ∈ namesOf (.array items) ↔ Json.string name ∈ items := by
  rw [namesOf, List.mem_filterMap]
  constructor
  · rintro ⟨item, member, isString⟩
    cases item with
    | string text =>
        cases isString
        exact member
    | _ => cases isString
  · intro member
    exact ⟨.string name, member, rfl⟩

end OptionShape

namespace Exemptions

variable {members : List (String × Json)} {tag name : String}

/-- The name is listed under a key that stands for the tag, ignoring case. -/
def Lists (members : List (String × Json)) (tag name : String) : Prop :=
  ∃ key items exempt, (key, Json.array items) ∈ members ∧ Json.string exempt ∈ items ∧
    Text.eqIgnoringCase key tag = true ∧ Text.eqIgnoringCase exempt name = true

/-- The name is listed under the last key that stands for the tag, ignoring case. -/
def InForce (members : List (String × Json)) (tag name : String) : Prop :=
  ∃ earlier key items later exempt, members = earlier ++ (key, Json.array items) :: later ∧
    Text.eqIgnoringCase key tag = true ∧
    (∀ other ∈ later, Text.eqIgnoringCase other.1 tag = false) ∧
    Json.string exempt ∈ items ∧ Text.eqIgnoringCase exempt name = true

/-- No two keys stand for the tag, ignoring case. -/
def OneKey (members : List (String × Json)) (tag : String) : Prop :=
  members.Pairwise fun left right =>
    Text.eqIgnoringCase left.1 tag = true → Text.eqIgnoringCase right.1 tag = false

/-- The names exempt on a tag are those under the last key that stands for it. -/
theorem get?_ofMembers (members : List (String × Json)) (tag : String) :
    (ofMembers members).get? (Text.lower tag) =
      (members.reverse.find? fun member => Text.eqIgnoringCase member.1 tag).map fun member =>
        OptionShape.namesOf member.2 := by
  rw [ofMembers, Dictionary.get?_ofEntries, ← List.map_reverse]
  induction members.reverse with
  | nil => rfl
  | cons member rest ih =>
      rw [List.map_cons, lookup_entry_cons, ih, List.find?_cons]
      by_cases isTag : Text.lower member.1 = Text.lower tag
      · simp [Text.eqIgnoringCase_iff.mpr isTag, isTag]
      · have notTag : Text.eqIgnoringCase member.1 tag = false := by
          simpa [Text.eqIgnoringCase] using isTag
        simp [notTag, Ne.symm isTag]

theorem covers_empty (tag name : String) : covers .empty tag name = false := rfl

/-- The exemptions made from lists of names are those in force. -/
theorem covers_ofMembers
    (lists : ∀ key names, (key, names) ∈ members → ∃ items, names = Json.array items) :
    (ofMembers members).covers tag name = true ↔ InForce members tag name := by
  rw [covers, get?_ofMembers, Option.any_map, Option.any_eq_true]
  constructor
  · rintro ⟨⟨key, names⟩, found, listed⟩
    rcases List.find?_eq_some_iff_append.mp found with ⟨isTag, later, earlier, split, notLater⟩
    have members_eq : members = earlier.reverse ++ (key, names) :: later.reverse := by
      simpa using congrArg List.reverse split
    have member : (key, names) ∈ members := by simp [members_eq]
    rcases lists key names member with ⟨items, rfl⟩
    rcases List.any_eq_true.mp listed with ⟨exempt, inNames, isName⟩
    refine ⟨earlier.reverse, key, items, later.reverse, exempt, members_eq, isTag, ?_,
      OptionShape.mem_namesOf_array.mp inNames, isName⟩
    intro other inLater
    simpa using notLater other (List.mem_reverse.mp inLater)
  · rintro ⟨earlier, key, items, later, exempt, rfl, isTag, notLater, inItems, isName⟩
    refine ⟨(key, .array items), List.find?_eq_some_iff_append.mpr ?_, ?_⟩
    · refine ⟨isTag, later.reverse, earlier.reverse, by simp, ?_⟩
      intro other inLater
      simpa using notLater other (List.mem_reverse.mp inLater)
    · exact List.any_eq_true.mpr ⟨exempt, OptionShape.mem_namesOf_array.mpr inItems, isName⟩

/-- Where one key stands for a tag, all that is listed under it is in force. -/
theorem inForce_iff_lists (oneKey : OneKey members tag) :
    InForce members tag name ↔ Lists members tag name := by
  constructor
  · rintro ⟨earlier, key, items, later, exempt, rfl, isTag, _, inItems, isName⟩
    exact ⟨key, items, exempt, by simp, inItems, isTag, isName⟩
  · rintro ⟨key, items, exempt, member, inItems, isTag, isName⟩
    rcases List.append_of_mem member with ⟨earlier, later, rfl⟩
    refine ⟨earlier, key, items, later, exempt, rfl, isTag, ?_, inItems, isName⟩
    intro other inLater
    have fromKey := (List.pairwise_append.mp oneKey).2.1
    exact List.rel_of_pairwise_cons fromKey inLater isTag

end Exemptions

/-- The rule with nothing exempt. -/
def Rule.withoutExemptions : Rule → Rule
  | .handlerPlacement rule => .handlerPlacement { rule with exemptions := .empty }
  | .roleRedundancy _ => .roleRedundancy ⟨.empty⟩
  | rule => rule

namespace HandlerPlacement

/-- The members of options that list exemptions. -/
def exemptionMembers (members : List (String × Json)) : List (String × Json) :=
  members.filter fun member => member.1 != handlersKey

/-- The options are about the handler: they list it as one, or list none and it is a usual one. -/
def Configured (members : List (String × Json)) (handler : String) : Prop :=
  match members.lookup handlersKey with
  | some names => ∃ items, names = .array items ∧ Json.string handler ∈ items
  | none => handler ∈ EventCategory.interactionHandlers

variable {members : List (String × Json)} {ontology : Ontology} {element : Element}

theorem mem_handlers_ofOptions {handler : String}
    (fits : RuleId.handlerPlacement.shape.check (some (.object members)) = .ok ()) :
    handler ∈ (ofOptions (some (.object members))).handlers ↔ Configured members handler := by
  simp only [ofOptions, OptionShape.membersOf]
  unfold Configured
  cases listed : members.lookup handlersKey with
  | none => rfl
  | some names =>
      rcases OptionShape.array_of_check fits (mem_of_lookup listed) with ⟨items, rfl⟩
      simp [OptionShape.mem_namesOf_array]

theorem covers_ofOptions {handler : String}
    (fits : RuleId.handlerPlacement.shape.check (some (.object members)) = .ok ()) :
    (ofOptions (some (.object members))).exemptions.covers element.tag handler = true ↔
      Exemptions.InForce (exemptionMembers members) element.tag handler := by
  refine Exemptions.covers_ofMembers ?_
  intro key names member
  exact OptionShape.array_of_check fits (List.mem_filter.mp member).1

/-- The rule is silent where every handler that is bound is exempt, or where it would be silent
with nothing exempt; there is no other way. -/
theorem check_eq_none_iff {rule : HandlerPlacement} :
    rule.check ontology element = none ↔
      (∀ handler ∈ rule.handlers, (element.reading handler).isBound = true →
        rule.exemptions.covers element.tag handler = true) ∨
      ({ rule with exemptions := .empty } : HandlerPlacement).check ontology element = none := by
  constructor
  · intro silent
    cases unexempted : ({ rule with exemptions := .empty } : HandlerPlacement).check ontology
      element with
    | none => exact .inr rfl
    | some finding =>
        refine .inl fun handler configured bound => ?_
        rcases check_eq_some_iff.mp unexempted with ⟨known, _, rest⟩
        rw [← Bool.not_eq_false]
        intro notExempt
        have objects := check_eq_some_iff.mpr
          ⟨known, ⟨handler, configured, notExempt, bound⟩, rest⟩
        rw [silent] at objects
        cases objects
  · intro excused
    rw [Option.eq_none_iff_forall_ne_some]
    intro finding reported
    rcases excused with allExempt | silent
    · rcases check_eq_some_iff.mp reported with ⟨_, ⟨handler, configured, notExempt, bound⟩, _⟩
      rw [allExempt handler configured bound] at notExempt
      cases notExempt
    · have objects : ({ rule with exemptions := .empty } : HandlerPlacement).check ontology
          element = some finding :=
        check_of_stricter (List.Subset.refl rule.handlers)
          (fun tag name _ => Exemptions.covers_empty tag name) reported
      rw [silent] at objects
      cases objects

end HandlerPlacement

/-- The rule is silent where the implicit role is exempt, or where it would be silent with nothing
exempt; there is no other way. -/
theorem RoleRedundancy.check_eq_none_iff {rule : RoleRedundancy} {ontology : Ontology}
    {element : Element} {role : String}
    (implicit : ontology.implicitRole? element.tag element.attributes = some role) :
    rule.check ontology element = none ↔
      rule.exemptions.covers element.tag role = true ∨
      (⟨.empty⟩ : RoleRedundancy).check ontology element = none := by
  constructor
  · intro silent
    cases unexempted : (⟨.empty⟩ : RoleRedundancy).check ontology element with
    | none => exact .inr rfl
    | some finding =>
        rcases check_eq_some_iff.mp unexempted with ⟨known, explicit, _, said, meant, same, _, _⟩
        rw [implicit] at meant
        cases meant
        rw [← Bool.not_eq_false]
        refine .inl fun notExempt => ?_
        have objects := check_eq_some_iff.mpr
          ⟨known, explicit, role, said, implicit, same, notExempt, rfl⟩
        rw [silent] at objects
        cases objects
  · intro excused
    rw [Option.eq_none_iff_forall_ne_some]
    intro finding reported
    rcases excused with exempt | silent
    · rcases check_eq_some_iff.mp reported with ⟨_, _, meant, _, isImplicit, _, notExempt, _⟩
      rw [implicit] at isImplicit
      cases isImplicit
      rw [exempt] at notExempt
      cases notExempt
    · have objects : (⟨.empty⟩ : RoleRedundancy).check ontology element = some finding :=
        check_of_stricter (fun tag name _ => Exemptions.covers_empty tag name) reported
      rw [silent] at objects
      cases objects

namespace Exemptions

/-- Of the exemptions that options list, the rules go by those in force, and by all of these: the
rule on repeated roles is silent exactly where the implicit role is in force as an exemption, the
rule on handlers exactly where every handler in question that is bound is, other than where they
would be silent with nothing exempt. No exemption for the tag of an element is lost if one key
stands for the tag. -/
theorem silent_iff_inForce (members : List (String × Json)) (ontology : Ontology)
    (element : Element) :
    (∀ rule role, Rule.create RuleId.roleRedundancy.text (some (.object members)) = .ok rule →
      ontology.implicitRole? element.tag element.attributes = some role →
      (rule.checkElement ontology element = none ↔
        InForce members element.tag role ∨
        rule.withoutExemptions.checkElement ontology element = none)) ∧
    (∀ rule, Rule.create RuleId.handlerPlacement.text (some (.object members)) = .ok rule →
      (rule.checkElement ontology element = none ↔
        (∀ handler, HandlerPlacement.Configured members handler →
          (element.reading handler).isBound = true →
          InForce (HandlerPlacement.exemptionMembers members) element.tag handler) ∨
        rule.withoutExemptions.checkElement ontology element = none)) ∧
    (OneKey members element.tag → ∀ name,
      (Lists members element.tag name → InForce members element.tag name) ∧
      (Lists (HandlerPlacement.exemptionMembers members) element.tag name →
        InForce (HandlerPlacement.exemptionMembers members) element.tag name)) := by
  refine ⟨?_, ?_, ?_⟩
  · intro rule role created implicit
    rcases Rule.create_text_eq_ok_iff.mp created with ⟨fits, rfl⟩
    have exempt : (RoleRedundancy.ofOptions (some (.object members))).exemptions.covers element.tag
        role = true ↔ InForce members element.tag role :=
      covers_ofMembers fun _ _ member => OptionShape.array_of_check fits member
    rw [← exempt]
    exact RoleRedundancy.check_eq_none_iff implicit
  · intro rule created
    rcases Rule.create_text_eq_ok_iff.mp created with ⟨fits, rfl⟩
    simp only [← HandlerPlacement.mem_handlers_ofOptions fits,
      ← HandlerPlacement.covers_ofOptions fits]
    exact HandlerPlacement.check_eq_none_iff
  · intro oneKey name
    have oneExemptionKey : OneKey (HandlerPlacement.exemptionMembers members) element.tag :=
      List.Pairwise.filter _ oneKey
    exact ⟨(inForce_iff_lists oneKey).mpr, (inForce_iff_lists oneExemptionKey).mpr⟩

/-- An image with a handler for its loading. -/
def loadingImage : Element := ⟨"img", [⟨"onLoad", some .dynamic⟩]⟩

theorem eq_onLoad_of_bound :
    ∀ handler ∈ EventCategory.interactionHandlers,
      (loadingImage.reading handler).isBound = true → handler = "onLoad" := by
  decide +kernel

theorem lists_onLoad {spelling : String} (others : List (String × Json))
    (isName : Text.eqIgnoringCase spelling "onLoad" = true) :
    Lists (HandlerPlacement.exemptionMembers (("IMG", Profile.names [spelling]) :: others))
      loadingImage.tag "onLoad" := by
  refine ⟨"IMG", [.string spelling], spelling, ?_, List.mem_singleton_self _, by decide, isName⟩
  have isExemption : ("IMG" != HandlerPlacement.handlersKey) = true := by decide
  exact List.mem_filter.mpr ⟨List.mem_cons_self .., isExemption⟩

theorem silent_iff_inForce_image :
    let members := [("IMG", Profile.names ["ONLOAD"])]
    ∃ rule, Rule.create RuleId.handlerPlacement.text (some (.object members)) = .ok rule ∧
      OneKey members loadingImage.tag ∧
      rule.checkElement Ontology.standard loadingImage = none := by
  intro members
  have oneKey : OneKey members loadingImage.tag := List.pairwise_singleton ..
  have ⟨_, onHandlers, kept⟩ := silent_iff_inForce members Ontology.standard loadingImage
  refine ⟨_, rfl, oneKey, (onHandlers _ rfl).mpr (.inl ?_)⟩
  intro handler configured bound
  cases eq_onLoad_of_bound handler configured bound
  exact (kept oneKey "onLoad").2 (lists_onLoad [] (by decide))

/-- Of two keys that stand for one tag the later one replaces the earlier one. The exemption under
the earlier key is then lost: every handler that is bound is listed, and the rule objects. -/
theorem objection_despite_lists :
    let members := [("IMG", Profile.names ["onLoad"]), ("img", Profile.names ["onError"])]
    ∃ rule, Rule.create RuleId.handlerPlacement.text (some (.object members)) = .ok rule ∧
      (∀ handler, HandlerPlacement.Configured members handler →
        (loadingImage.reading handler).isBound = true →
        Lists (HandlerPlacement.exemptionMembers members) loadingImage.tag handler) ∧
      rule.checkElement Ontology.standard loadingImage = some .misplacedHandler := by
  intro members
  have objects : ∀ ontology, (HandlerPlacement.ofOptions (some (.object members))).check ontology
      loadingImage = some .misplacedHandler := by
    intro ontology
    have judged : Interactivity.classify ontology loadingImage.tag loadingImage.attributes =
        .nonInteractive := Interactivity.classify_of_neverInteractive rfl rfl ontology
    exact HandlerPlacement.check_eq_some_iff.mpr
      ⟨by decide, ⟨"onLoad", by decide, by decide, by decide⟩, rfl, rfl, judged, rfl⟩
  refine ⟨_, rfl, ?_, objects Ontology.standard⟩
  intro handler configured bound
  cases eq_onLoad_of_bound handler configured bound
  exact lists_onLoad _ (by decide)

end Exemptions
end AccessAudit
