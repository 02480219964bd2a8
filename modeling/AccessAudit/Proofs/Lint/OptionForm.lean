import AccessAudit.Lint.Profile
import AccessAudit.Proofs.Lint.Activation

/-!
# Options that fit

This file says what options look like that pass the check against a shape.

The check accepts a list exactly if it is an array of distinct names that are not empty, and what is
taken out of such an array are the names in it (`OptionShape.nameList_eq_ok_iff`,
`OptionShape.namesOf_names`). A shape is then a condition on the value (`OptionShape.Admits`).
-/

namespace AccessAudit

/-- A pass over a list succeeds exactly if every item passes. -/
theorem forM_eq_ok_iff {ε α : Type} {pass : α → Except ε Unit} {items : List α} :
    items.forM pass = .ok () ↔ ∀ item ∈ items, pass item = .ok () := by
  induction items with
  | nil => simp [List.forM, pure, Except.pure]
  | cons item items ih =>
      rw [List.forall_mem_cons, ← ih, List.forM]
      cases pass item <;> simp [bind, Except.bind]

namespace OptionShape

variable {json : Json} {names : List String} {options : Option Json}

/-- Distinct names, none of which is empty. -/
def AreNames (names : List String) : Prop :=
  names.Nodup ∧ ∀ name ∈ names, name ≠ ""

theorem areNames_nil : AreNames [] := ⟨List.nodup_nil, by simp⟩

theorem areNames_cons_iff {name : String} :
    AreNames (name :: names) ↔ name ≠ "" ∧ name ∉ names ∧ AreNames names := by
  simp only [AreNames, List.nodup_cons, List.forall_mem_cons]
  grind

theorem namesFrom_eq_ok_iff {seen : List String} {items : List Json} :
    namesFrom seen items = .ok names ↔
      items = names.map .string ∧ AreNames names ∧ ∀ name ∈ names, name ∉ seen := by
  fun_induction namesFrom seen items generalizing names with
  | case1 seen =>
      constructor
      · rintro ⟨⟩
        exact ⟨rfl, areNames_nil, by simp⟩
      · rintro ⟨listed, _⟩
        rw [List.map_eq_nil_iff.mp listed.symm]
  | case2 seen rest =>
      refine iff_of_false (by simp) ?_
      rintro ⟨listed, areNames, _⟩
      rcases List.map_eq_cons_iff.mp listed.symm with ⟨_, _, rfl, isText, _⟩
      cases isText
      exact (areNames_cons_iff.mp areNames).1 rfl
  | case3 seen name rest _ isSeen =>
      refine iff_of_false (by simp) ?_
      rintro ⟨listed, _, unseen⟩
      rcases List.map_eq_cons_iff.mp listed.symm with ⟨_, _, rfl, isText, _⟩
      cases isText
      exact unseen name (List.mem_cons_self ..) (by simpa using isSeen)
  | case4 seen name rest nonempty isUnseen ih =>
      rw [map_eq_ok_iff]
      constructor
      · rintro ⟨others, listed, rfl⟩
        rcases ih.mp listed with ⟨rfl, areNames, unseen⟩
        have notRepeated : name ∉ others := fun member =>
          unseen name member (List.mem_cons_self ..)
        refine ⟨rfl, areNames_cons_iff.mpr ⟨nonempty, notRepeated, areNames⟩, ?_⟩
        rw [List.forall_mem_cons]
        refine ⟨by simpa using isUnseen, ?_⟩
        intro other member inSeen
        exact unseen other member (List.mem_cons_of_mem _ inSeen)
      · rintro ⟨listed, areNames, unseen⟩
        rcases List.map_eq_cons_iff.mp listed.symm with ⟨_, others, rfl, isText, rfl⟩
        cases isText
        rcases areNames_cons_iff.mp areNames with ⟨_, notRepeated, otherNames⟩
        refine ⟨others, ih.mpr ⟨rfl, otherNames, ?_⟩, rfl⟩
        intro other member inSeen
        rcases List.mem_cons.mp inSeen with rfl | inSeen
        · exact notRepeated member
        · exact unseen other (List.mem_cons_of_mem _ member) inSeen
  | case5 seen other rest notAText =>
      refine iff_of_false (by simp) ?_
      rintro ⟨listed, _⟩
      rcases List.map_eq_cons_iff.mp listed.symm with ⟨name, _, _, isText, _⟩
      exact notAText name isText.symm

theorem nameList_eq_ok_iff :
    nameList json = .ok names ↔ json = Profile.names names ∧ AreNames names := by
  cases json with
  | array items => simp [nameList, namesFrom_eq_ok_iff, Profile.names]
  | _ => simp [nameList, Profile.names]

theorem namesOf_names (names : List String) : namesOf (Profile.names names) = names := by
  induction names with
  | nil => rfl
  | cons name names ih =>
      change name :: namesOf (Profile.names names) = name :: names
      rw [ih]

/-- The value lists distinct names. -/
def IsList (json : Json) : Prop :=
  ∃ names, json = Profile.names names ∧ AreNames names

theorem IsList.names_namesOf (isList : IsList json) : Profile.names (namesOf json) = json := by
  rcases isList with ⟨names, rfl, _⟩
  rw [namesOf_names]

/-- The value is one of the shape. -/
def Admits (json : Json) : OptionShape → Prop
  | .nothing => json = .object []
  | .names => (∃ name ≠ "", json = .string name) ∨ IsList json ∧ json ≠ .array []
  | .table keys tags =>
    ∃ members, json = .object members ∧
      ∀ member ∈ members, isKey keys tags member.1 = true ∧ IsList member.2

theorem not_isList {fault : ListFault} (refused : nameList json = .error fault) :
    ¬IsList json := by
  rintro ⟨names, isList⟩
  rw [nameList_eq_ok_iff.mpr isList] at refused
  cases refused

theorem checkMember_eq_ok_iff {keys : List String} {tags : Bool} {member : String × Json} :
    checkMember keys tags member = .ok () ↔
      isKey keys tags member.1 = true ∧ IsList member.2 := by
  unfold checkMember
  split
  · rename_i isKey
    cases listed : nameList member.2 with
    | ok names => exact iff_of_true rfl ⟨isKey, names, nameList_eq_ok_iff.mp listed⟩
    | error fault => exact iff_of_false (by simp) fun fits => not_isList listed fits.2
  · rename_i notKey
    simp [notKey]

theorem checkValue_eq_ok_iff {shape : OptionShape} :
    shape.checkValue json = .ok () ↔ shape.Admits json := by
  fun_cases checkValue shape json with
  | case1 => simp [Admits]
  | case2 _ notEmpty => simpa [Admits] using notEmpty
  | case3 => simp [Admits, IsList, Profile.names]
  | case4 name nonempty => simpa [Admits, IsList, Profile.names] using nonempty
  | case5 => simp [Admits]
  | case6 items nonempty names listed =>
      refine iff_of_true rfl (.inr ⟨⟨names, nameList_eq_ok_iff.mp listed⟩, ?_⟩)
      simpa using nonempty
  | case7 items nonempty fault refused => simp [Admits, not_isList refused]
  | case8 _ notAText _ notAnArray =>
      refine iff_of_false (by simp) ?_
      rintro (⟨name, _, isText⟩ | ⟨⟨names, isArray, _⟩, _⟩)
      · exact notAText name isText
      · exact notAnArray _ isArray
  | case9 keys tags members =>
      rw [forM_eq_ok_iff]
      simp [Admits, checkMember_eq_ok_iff]
  | case10 _ keys tags notATable =>
      refine iff_of_false (by simp) ?_
      rintro ⟨members, isTable, _⟩
      exact notATable members isTable

theorem check_eq_ok_iff {shape : OptionShape} :
    shape.check options = .ok () ↔ ∀ json ∈ options, shape.Admits json := by
  cases options <;> simp [check, checkValue_eq_ok_iff]

/-- The options are the table of these members; no options are an empty one. -/
def IsTable (options : Option Json) (members : List (String × Json)) : Prop :=
  options = none ∧ members = [] ∨ options = some (.object members)

theorem isTable_of_nothing (fits : nothing.check options = .ok ()) : IsTable options [] := by
  rw [check_eq_ok_iff] at fits
  cases options with
  | none => exact .inl ⟨rfl, rfl⟩
  | some json => exact .inr (congrArg some (fits json rfl))

theorem isTable_of_table {keys : List String} {tags : Bool}
    (fits : (table keys tags).check options = .ok ()) :
    IsTable options (membersOf options) ∧ ∀ member ∈ membersOf options, IsList member.2 := by
  rw [check_eq_ok_iff] at fits
  cases options with
  | none => exact ⟨.inl ⟨rfl, rfl⟩, by simp [membersOf]⟩
  | some json =>
      rcases fits json rfl with ⟨members, rfl, lists⟩
      exact ⟨.inr rfl, fun member inMembers => (lists member inMembers).2⟩

end OptionShape
end AccessAudit
