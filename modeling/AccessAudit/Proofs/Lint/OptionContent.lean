import AccessAudit.Proofs.Lint.Exemption

/-!
# What rules take out of options

Options are looked at twice: they are checked against the shape that a rule has for them, and then
the rule takes out of them what it needs. This file proves that the two agree: a rule is made of
options exactly if they fit, and it holds all that is written in them (`Rule.Holds`).
-/

namespace AccessAudit

theorem RuleId.mem_all (id : RuleId) : id ∈ all := by
  cases id <;> decide

namespace Exemptions

variable {members : List (String × Json)}

/-- No two keys are the same ignoring case. -/
def KeysApart (members : List (String × Json)) : Prop :=
  members.Pairwise fun left right => Text.eqIgnoringCase left.1 right.1 = false

/-- The exemptions are the lists under the keys, each kept under its key in small letters. -/
def AreListed (exemptions : Exemptions) (members : List (String × Json)) : Prop :=
  (exemptions.entries.map fun entry => (entry.1, Profile.names entry.2)).Perm
    (members.map fun member => (Text.lower member.1, member.2))

theorem KeysApart.nodup (apart : KeysApart members) :
    ((members.map fun member => (Text.lower member.1, OptionShape.namesOf member.2)).map
      Prod.fst).Nodup := by
  rw [List.map_map, List.nodup_iff_pairwise_ne, List.pairwise_map]
  apply apart.imp
  intro left right differ same
  simp [Text.eqIgnoringCase_iff.mpr same] at differ

theorem areListed_ofMembers (apart : KeysApart members)
    (lists : ∀ member ∈ members, OptionShape.IsList member.2) :
    AreListed (ofMembers members) members := by
  have kept := (Dictionary.perm_ofEntries apart.nodup).map
    fun entry => (entry.1, Profile.names entry.2)
  rw [List.map_map] at kept
  refine kept.trans (.of_eq (List.map_congr_left ?_))
  intro member inMembers
  simp [(lists member inMembers).names_namesOf]

end Exemptions

/-- The rule on handlers holds what members of options say: the handlers under their key, or the
usual ones where there is no such key, and under all other keys the exemptions. -/
structure HandlerPlacement.Holds (rule : HandlerPlacement) (members : List (String × Json)) :
    Prop where
  handlers :
    match members.lookup handlersKey with
    | some listed => listed = Profile.names rule.handlers
    | none => rule.handlers = EventCategory.interactionHandlers
  exemptions : Exemptions.KeysApart (exemptionMembers members) →
    rule.exemptions.AreListed (exemptionMembers members)

namespace Rule

/-- The rule holds what is written in the options. Exemptions are all held where no two of their
keys are the same ignoring case. -/
def Holds (options : Option Json) : Rule → Prop
  | .imageText rule =>
    options = none ∧ rule.components = [] ∨
      (∃ name, options = some (.string name) ∧ rule.components = [name]) ∨
      options = some (Profile.names rule.components)
  | .handlerPlacement rule =>
    ∃ members, OptionShape.IsTable options members ∧ rule.Holds members
  | .roleRedundancy rule =>
    ∃ members, OptionShape.IsTable options members ∧
      (Exemptions.KeysApart members → rule.exemptions.AreListed members)
  | _ => OptionShape.IsTable options []

theorem holds_imageText {options : Option Json} (fits : OptionShape.names.check options = .ok ()) :
    Holds options (.imageText (.ofOptions options)) := by
  rw [OptionShape.check_eq_ok_iff] at fits
  cases options with
  | none => exact .inl ⟨rfl, rfl⟩
  | some json =>
      rcases fits json rfl with ⟨name, _, rfl⟩ | ⟨isList, _⟩
      · exact .inr (.inl ⟨name, rfl, rfl⟩)
      · exact .inr (.inr (congrArg some isList.names_namesOf.symm))

theorem holds_handlerPlacement {options : Option Json} {keys : List String} {tags : Bool}
    (fits : (OptionShape.table keys tags).check options = .ok ()) :
    Holds options (.handlerPlacement (.ofOptions options)) := by
  rcases OptionShape.isTable_of_table fits with ⟨isTable, lists⟩
  refine ⟨OptionShape.membersOf options, isTable, ?_, ?_⟩
  · cases listed : (OptionShape.membersOf options).lookup HandlerPlacement.handlersKey with
    | none => simp [HandlerPlacement.ofOptions, listed]
    | some names =>
        have isList := lists _ (mem_of_lookup listed)
        simp [HandlerPlacement.ofOptions, listed, isList.names_namesOf]
  · intro apart
    apply Exemptions.areListed_ofMembers apart
    intro member inExemptions
    exact lists member (List.mem_filter.mp inExemptions).1

theorem holds_roleRedundancy {options : Option Json} {keys : List String} {tags : Bool}
    (fits : (OptionShape.table keys tags).check options = .ok ()) :
    Holds options (.roleRedundancy (.ofOptions options)) := by
  rcases OptionShape.isTable_of_table fits with ⟨isTable, lists⟩
  exact ⟨_, isTable, fun apart => Exemptions.areListed_ofMembers apart lists⟩

/-- A rule that is made of options that fit holds what is written in them. -/
theorem holds_ofOptions {id : RuleId} {options : Option Json}
    (fits : id.shape.check options = .ok ()) : (ofOptions id options).Holds options := by
  cases id with
  | imageText => exact holds_imageText fits
  | handlerPlacement => exact holds_handlerPlacement fits
  | roleRedundancy => exact holds_roleRedundancy fits
  | _ => exact OptionShape.isTable_of_nothing fits

/-- Checking options and making a rule of them agree. A list passes exactly if it is an array of
distinct names that are not empty, and then its names are the ones taken from it. A rule is made
exactly if it is known and the options fit its shape. It then holds the names written in the
options, all of them if the keys of exemptions are distinct ignoring case. -/
theorem create_holds_what_fits (json : Json) (names : List String) (name : String)
    (options : Option Json) :
    (OptionShape.nameList json = .ok names ↔
      json = .array (names.map .string) ∧ names.Nodup ∧ ∀ name ∈ names, name ≠ "") ∧
    (OptionShape.nameList json = .ok names → OptionShape.namesOf json = names) ∧
    ((∃ rule, create name options = .ok rule) ↔
      ∃ id ∈ RuleId.all, id.text = name ∧ id.shape.check options = .ok ()) ∧
    ∀ rule, create name options = .ok rule → rule.id.text = name ∧ rule.Holds options := by
  refine ⟨?_, ?_, ?_, ?_⟩
  · exact OptionShape.nameList_eq_ok_iff
  · intro listed
    rw [(OptionShape.nameList_eq_ok_iff.mp listed).1, OptionShape.namesOf_names]
  · simp only [create_eq_ok_iff]
    constructor
    · rintro ⟨_, id, named, fits, _⟩
      exact ⟨id, RuleId.mem_all id, named, fits⟩
    · rintro ⟨id, _, named, fits⟩
      exact ⟨_, id, named, fits, rfl⟩
  · intro rule created
    rcases create_eq_ok_iff.mp created with ⟨id, rfl, fits, rfl⟩
    exact ⟨by rw [id_ofOptions], holds_ofOptions fits⟩

theorem create_holds_what_fits_capitals :
    let options : Json := .object [("Nav", Profile.names ["onClick"]),
      ("handlers", Profile.names ["onKeyDown", "onClick"]), ("img", Profile.names [])]
    ∃ rule : HandlerPlacement,
      create RuleId.handlerPlacement.text (some options) = .ok (.handlerPlacement rule) ∧
      rule.handlers = ["onKeyDown", "onClick"] ∧
      rule.exemptions.AreListed [("Nav", Profile.names ["onClick"]), ("img", Profile.names [])] := by
  intro options
  refine ⟨.ofOptions (some options), rfl, ?_⟩
  have made := (create_holds_what_fits options [] RuleId.handlerPlacement.text (some options)).2.2.2
  rcases (made _ rfl).2 with ⟨members, (⟨noOptions, _⟩ | isTable), holds⟩
  · cases noOptions
  · obtain rfl := Json.object.inj (Option.some.inj isTable)
    have listed : Profile.names ["onKeyDown", "onClick"] =
        Profile.names (HandlerPlacement.ofOptions (some options)).handlers := holds.handlers
    have handlers := congrArg OptionShape.namesOf listed
    rw [OptionShape.namesOf_names, OptionShape.namesOf_names] at handlers
    refine ⟨handlers.symm, holds.exemptions ?_⟩
    unfold Exemptions.KeysApart
    decide

end Rule
end AccessAudit
