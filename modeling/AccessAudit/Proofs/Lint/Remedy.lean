import AccessAudit.Proofs.Lint.PropertyNamespace
import AccessAudit.Proofs.Lint.Shadowing
import AccessAudit.Proofs.Role.AncestryOrder

/-!
# Acting on reports of missing properties

The rule on required properties reports the first word of a role whose properties are not all there,
and lists these properties. Whoever acts on the report adds an attribute for each of them. This file
proves that acting on reports comes to an end. The next report, if there is one, is about a later
word, so no more steps are needed than the role has words; and none of the attributes that are added
is objected to by the rule on property names.

Words that are met stay met, since the rule only asks which attributes are there
(`RequiredProperty.unmet?_append_eq_none`). The reported word is met afterwards, since what the
report lists is what is looked for, ignoring case. A list with blanks between its items can be read
back only because no item has a blank in it: tables that require a property outside the catalogue
make no ontology, and the names of the catalogue are words.
-/

namespace AccessAudit

namespace Attribute

/-- The words of the text that an attribute is known to have. -/
def words (attr : Attribute) : List String :=
  (attr.reading.text?.map Text.words).getD []

end Attribute

namespace Element

variable {element : Element} {attr : Attribute} {name : String}

theorem has_of_mem (written : attr ∈ element.attributes) (named : attr.isNamed name = true) :
    element.has name = true := by
  simp only [has, find?, Attribute.find?, List.find?_isSome]
  exact ⟨attr, written, named⟩

theorem has_append (further : List Attribute) (present : element.has name = true) :
    (element.append further).has name = true := by
  simp only [has, find?, Attribute.find?, List.find?_isSome] at present
  rcases present with ⟨attr, written, named⟩
  exact has_of_mem (List.mem_append_left _ written) named

end Element

namespace Property

variable {name : String}

@[simp]
theorem isKnown_upper (name : String) : isKnown (Text.upper name) = isKnown name := by
  simp [isKnown, type?]

@[simp]
theorem isKnown_lower (name : String) : isKnown (Text.lower name) = isKnown name := by
  simp [isKnown, type?]

theorem isWord_of_mem {entry : String × PropertyType} (listed : entry ∈ catalogue) :
    Text.IsWord entry.1 := by
  revert entry
  decide +kernel

theorem isWord_of_isKnown (known : isKnown name = true) : Text.IsWord (Text.lower name) := by
  rcases Option.isSome_iff_exists.mp known with ⟨type, found⟩
  have isWord := isWord_of_mem (type?_eq_some_iff.mp found)
  exact isWord

end Property

namespace Ontology

variable {taxonomy : List RoleDecl} {implicit : List ImplicitRole} {ontology : Ontology}
  {name : String} {role : Role}

theorem exists_ofDecl_of_role? (accepted : ofTables taxonomy implicit = .ok ontology)
    (registered : ontology.role? name = some role) :
    ∃ decl ∈ taxonomy, ∃ ancestors, Text.upper decl.name = Text.upper name ∧
      role = Role.ofDecl decl ancestors := by
  rcases (accepted_of_ofTables accepted).2 (Text.upper name) with
    ⟨decl, ancestors, last, _, found⟩ | ⟨_, nothing⟩
  · rw [role?, found] at registered
    cases registered
    exact ⟨decl, Taxonomy.mem_of_lastNamed? last, ancestors, Taxonomy.upper_of_lastNamed? last, rfl⟩
  · rw [role?, nothing] at registered
    cases registered

theorem exists_ofDecl_of_lastNamed? {decl : RoleDecl}
    (accepted : ofTables taxonomy implicit = .ok ontology)
    (last : Taxonomy.lastNamed? taxonomy (Text.upper name) = some decl) :
    ∃ ancestors, ontology.role? name = some (Role.ofDecl decl ancestors) := by
  rcases (accepted_of_ofTables accepted).2 (Text.upper name) with
    ⟨other, ancestors, otherLast, _, found⟩ | ⟨nothing, _⟩
  · rw [last] at otherLast
    cases otherLast
    exact ⟨ancestors, found⟩
  · rw [last] at nothing
    cases nothing

/-- Roles require catalogued properties only. -/
theorem isKnown_of_required (accepted : ofTables taxonomy implicit = .ok ontology)
    (registered : ontology.role? name = some role) {property : String}
    (required : property ∈ role.required.keys) : Property.isKnown property = true := by
  rcases exists_ofDecl_of_role? accepted registered with ⟨decl, declared, ancestors, _, rfl⟩
  rw [Dictionary.mem_keys, Role.contains_required_ofDecl] at required
  rcases required with ⟨listed, isListed, rfl⟩
  rw [Property.isKnown_upper]
  exact ((accepted_of_ofTables accepted).1 decl declared).known listed isListed

end Ontology

namespace Finding

/-- A bare attribute for each property that a report lists. -/
def remedy : Finding → List Attribute
  | .missingProperties _ properties => (Text.words properties).map fun name => ⟨name, none⟩
  | _ => []

/-- The position of the first word that names the reported role. -/
def rolePosition? (words : List String) : Finding → Option Nat
  | .missingProperties role _ => words.findIdx? fun word => Text.eqIgnoringCase word role
  | _ => none

end Finding

namespace RequiredProperty

variable {taxonomy : List RoleDecl} {implicit : List ImplicitRole} {ontology : Ontology}
  {element : Element} {attr : Attribute} {finding : Finding} {word : String} {role : Role}
  {position index : Nat}

/-- The report of a role. -/
def report (role : Role) : Finding :=
  .missingProperties (Text.lower role.name) role.requiredText

theorem check_eq : check ontology element attr =
    if attr.isNamed "role" then (attr.words.findSome? (unmet? ontology element)).map report
    else none := by
  cases named : attr.isNamed "role" with
  | false => simp [check, named]
  | true =>
      cases read : attr.reading.text? with
      | none => simp [check, named, read, Attribute.words]
      | some text =>
          simp only [check, named, read, Attribute.words, Option.map_eq_bind]
          rfl

theorem unmet?_eq_some_iff :
    unmet? ontology element word = some role ↔
      ontology.concrete? word = some role ∧
        ∃ property ∈ role.required.keys, ¬element.has property = true := by
  simp [unmet?, Option.filter_eq_some_iff]

theorem unmet?_append_eq_none (further : List Attribute)
    (met : unmet? ontology element word = none) :
    unmet? ontology (element.append further) word = none := by
  by_contra unmet
  rcases Option.ne_none_iff_exists'.mp unmet with ⟨role, isUnmet⟩
  rcases unmet?_eq_some_iff.mp isUnmet with ⟨concrete, property, required, missing⟩
  have wasMissing : ¬element.has property = true :=
    fun present => missing (Element.has_append further present)
  rw [unmet?_eq_some_iff.mpr ⟨concrete, property, required, wasMissing⟩] at met
  cases met

theorem check_append_eq_none (further : List Attribute)
    (silent : check ontology element attr = none) :
    check ontology (element.append further) attr = none := by
  rw [check_eq] at silent ⊢
  split
  · rename_i isRole
    simp only [isRole, ↓reduceIte, Option.map_eq_none_iff, List.findSome?_eq_none_iff] at silent ⊢
    intro word listed
    exact unmet?_append_eq_none further (silent word listed)
  · rfl

/-- The word at this position is the first one whose role is not met. -/
structure FirstUnmet (ontology : Ontology) (element : Element) (attr : Attribute) (position : Nat)
    (role : Role) : Prop where
  unmet : ∃ word, attr.words[position]? = some word ∧ unmet? ontology element word = some role
  earlierMet : ∀ (earlier : Nat) (word : String), earlier < position →
    attr.words[earlier]? = some word → unmet? ontology element word = none

theorem exists_firstUnmet (found : check ontology element attr = some finding) :
    ∃ position role, FirstUnmet ontology element attr position role ∧ finding = report role := by
  rw [check_eq] at found
  split at found
  · rcases Option.map_eq_some_iff.mp found with ⟨role, first, rfl⟩
    rcases List.findSome?_eq_some_iff.mp first with ⟨before, word, after, split, unmet, earlierMet⟩
    refine ⟨before.length, role, ⟨⟨word, by simp [split], unmet⟩, ?_⟩, rfl⟩
    intro earlier other isEarlier atEarlier
    rw [split, List.getElem?_append_left isEarlier] at atEarlier
    exact earlierMet other (List.mem_of_getElem? atEarlier)
  · cases found

theorem unmet?_congr {other : String} (sameName : Text.upper word = Text.upper other) :
    unmet? ontology element word = unmet? ontology element other := by
  simp only [unmet?, Ontology.concrete?, Ontology.role?, sameName]

theorem role?_of_unmet? (unmet : unmet? ontology element word = some role) :
    ontology.role? word = some role := by
  have concrete := (unmet?_eq_some_iff.mp unmet).1
  exact (Option.filter_eq_some_iff.mp concrete).1

/-- What the rule reports of the attribute at a position. -/
def reportAt? (ontology : Ontology) (index : Nat) (element : Element) : Option Finding :=
  element.attributes[index]?.bind (Rule.requiredProperty.checkAttribute ontology element)

/-- The element after acting on what is reported of the attribute at a position, if anything. -/
def amend (ontology : Ontology) (index : Nat) (element : Element) : Element :=
  match reportAt? ontology index element with
  | some finding => element.append finding.remedy
  | none => element

theorem getElem?_append (further : List Attribute)
    (written : element.attributes[index]? = some attr) :
    (element.append further).attributes[index]? = some attr := by
  rcases List.getElem?_eq_some_iff.mp written with ⟨bound, _⟩
  rw [Element.append, List.getElem?_append_left bound, written]

theorem reportAt?_of_written (written : element.attributes[index]? = some attr) :
    reportAt? ontology index element = check ontology element attr := by
  rw [reportAt?, written]
  rfl

/-- What is reported is about a word from this position on. -/
def ReportsFrom (ontology : Ontology) (index : Nat) (words : List String) (position : Nat)
    (element : Element) : Prop :=
  ∀ finding, reportAt? ontology index element = some finding →
    ∃ found, finding.rolePosition? words = some found ∧ position ≤ found

theorem getElem?_amend (written : element.attributes[index]? = some attr) :
    (amend ontology index element).attributes[index]? = some attr := by
  unfold amend
  split
  · exact getElem?_append _ written
  · exact written

theorem rolePosition?_lt {words : List String}
    (found : finding.rolePosition? words = some position) : position < words.length := by
  cases finding with
  | missingProperties role properties =>
      exact (List.findIdx?_eq_some_iff_getElem.mp found).1
  | _ => cases found

section Tables

variable (accepted : Ontology.ofTables taxonomy implicit = .ok ontology)
include accepted

/-- The reported word is the first one that names the reported role. -/
theorem FirstUnmet.rolePosition? (first : FirstUnmet ontology element attr position role) :
    (report role).rolePosition? attr.words = some position := by
  rcases first with ⟨⟨word, atPosition, unmet⟩, earlierMet⟩
  have named : Text.upper role.name = Text.upper word := by
    rcases Ontology.exists_ofDecl_of_role? accepted (role?_of_unmet? unmet) with
      ⟨decl, _, _, sameName, rfl⟩
    simpa [Role.ofDecl] using sameName
  rw [report, Finding.rolePosition?]
  rcases List.getElem?_eq_some_iff.mp atPosition with ⟨bound, isWord⟩
  refine List.findIdx?_eq_some_iff_getElem.mpr ⟨bound, ?_, ?_⟩
  · rw [isWord, Text.eqIgnoringCase_iff_upper, Text.upper_lower, named]
  · intro earlier isEarlier sameName
    have met := earlierMet earlier _ isEarlier (List.getElem?_eq_getElem (by omega))
    rw [Text.eqIgnoringCase_iff_upper, Text.upper_lower, named] at sameName
    rw [unmet?_congr sameName, unmet] at met
    cases met

theorem words_requiredText (registered : ontology.role? word = some role) :
    Text.words role.requiredText = role.required.keys.map Text.lower := by
  apply Text.words_intercalate_space
  intro name listed
  rcases List.mem_map.mp listed with ⟨property, required, rfl⟩
  exact Property.isWord_of_isKnown (Ontology.isKnown_of_required accepted registered required)

theorem remedy_report (registered : ontology.role? word = some role) :
    (report role).remedy =
      role.required.keys.map fun property => ⟨Text.lower property, none⟩ := by
  simp [report, Finding.remedy, words_requiredText accepted registered, Function.comp_def]

theorem message_report (registered : ontology.role? word = some role) :
    (report role).message =
      "Elements with the ARIA role \"" ++ Text.lower role.name ++
        "\" must have the following attributes defined: " ++
        " ".intercalate ((report role).remedy.map Attribute.name) := by
  rw [remedy_report accepted registered, List.map_map, report, Finding.message.eq_def]
  rfl

theorem unmet?_remedy_eq_none (unmet : unmet? ontology element word = some role) :
    unmet? ontology (element.append (report role).remedy) word = none := by
  by_contra stillUnmet
  rcases Option.ne_none_iff_exists'.mp stillUnmet with ⟨other, isUnmet⟩
  rcases unmet?_eq_some_iff.mp isUnmet with ⟨concrete, property, required, missing⟩
  rw [(unmet?_eq_some_iff.mp unmet).1] at concrete
  cases concrete
  apply missing
  have added : (⟨Text.lower property, none⟩ : Attribute) ∈ (report role).remedy := by
    rw [remedy_report accepted (role?_of_unmet? unmet)]
    exact List.mem_map_of_mem required
  apply Element.has_of_mem (List.mem_append_right _ added)
  simp [Attribute.isNamed, Text.eqIgnoringCase]

theorem check_of_mem_remedy (registered : ontology.role? word = some role) {added : Attribute}
    (isAdded : added ∈ (report role).remedy) : PropertyName.check added = none := by
  rw [remedy_report accepted registered] at isAdded
  rcases List.mem_map.mp isAdded with ⟨property, required, rfl⟩
  have known := Ontology.isKnown_of_required accepted registered required
  simp [PropertyName.check, known]

/-- After acting on a report the reported word is met, and so are the words before it. -/
theorem FirstUnmet.lt_next (first : FirstUnmet ontology element attr position role)
    {later : Nat} {next : Role}
    (afterwards : FirstUnmet ontology (element.append (report role).remedy) attr later next) :
    position < later := by
  rcases first with ⟨⟨word, atPosition, unmet⟩, earlierMet⟩
  rcases afterwards with ⟨⟨other, atLater, stillUnmet⟩, _⟩
  by_contra notLater
  have met : unmet? ontology (element.append (report role).remedy) other = none := by
    rcases Nat.lt_or_eq_of_le (Nat.le_of_not_lt notLater) with isEarlier | rfl
    · exact unmet?_append_eq_none _ (earlierMet later other isEarlier atLater)
    · rw [atPosition] at atLater
      cases atLater
      exact unmet?_remedy_eq_none accepted unmet
  rw [stillUnmet] at met
  cases met

theorem report_progresses (written : element.attributes[index]? = some attr)
    (reported : reportAt? ontology index element = some finding) :
    ∃ position, finding.rolePosition? attr.words = some position ∧
      (reportAt? ontology index (element.append finding.remedy) = none ∨
        ∃ next later, reportAt? ontology index (element.append finding.remedy) = some next ∧
          next.rolePosition? attr.words = some later ∧ position < later) := by
  rw [reportAt?_of_written written] at reported
  rw [reportAt?_of_written (getElem?_append finding.remedy written)]
  rcases exists_firstUnmet reported with ⟨position, role, first, rfl⟩
  refine ⟨position, first.rolePosition? accepted, ?_⟩
  cases afterwards : check ontology (element.append (report role).remedy) attr with
  | none => exact .inl rfl
  | some next =>
      right
      rcases exists_firstUnmet afterwards with ⟨later, nextRole, nextFirst, rfl⟩
      exact ⟨_, later, rfl, nextFirst.rolePosition? accepted, first.lt_next accepted nextFirst⟩

theorem ReportsFrom.amend (written : element.attributes[index]? = some attr)
    (reportsFrom : ReportsFrom ontology index attr.words position element) :
    ReportsFrom ontology index attr.words (position + 1) (amend ontology index element) := by
  intro next reportedNext
  cases reported : reportAt? ontology index element with
  | none =>
      rw [RequiredProperty.amend, reported, reported] at reportedNext
      cases reportedNext
  | some finding =>
      rw [RequiredProperty.amend, reported] at reportedNext
      rcases reportsFrom finding reported with ⟨found, isFound, fromPosition⟩
      rcases report_progresses accepted written reported with
        ⟨before, isBefore, silent | ⟨_, later, isNext, isLater, progress⟩⟩
      · rw [silent] at reportedNext
        cases reportedNext
      · rw [reportedNext] at isNext
        cases isNext
        rw [isFound] at isBefore
        cases isBefore
        exact ⟨later, isLater, by omega⟩

theorem reportsFrom_iterate (written : element.attributes[index]? = some attr) (steps : Nat) :
    ((amend ontology index)^[steps] element).attributes[index]? = some attr ∧
      ReportsFrom ontology index attr.words steps ((amend ontology index)^[steps] element) := by
  induction steps with
  | zero =>
      refine ⟨written, ?_⟩
      intro finding reported
      rcases report_progresses accepted written reported with ⟨position, isPosition, _⟩
      exact ⟨position, isPosition, Nat.zero_le position⟩
  | succ steps ih =>
      rw [Function.iterate_succ_apply']
      exact ⟨getElem?_amend ih.1, ih.2.amend accepted ih.1⟩

end Tables

/-- Where the rule reports an attribute and the properties in the message are added, it is silent on
that attribute or reports a role named by a later word, and the rule on property names is silent on
what was added. Adding attributes never makes the rule report an attribute on which it was silent.
So it is silent after as many steps as the role has words. -/
theorem acting_on_report_progresses
    (accepted : Ontology.ofTables taxonomy implicit = .ok ontology)
    (written : element.attributes[index]? = some attr) :
    (∀ finding, reportAt? ontology index element = some finding →
      (∃ role, finding.message =
        "Elements with the ARIA role \"" ++ role ++
          "\" must have the following attributes defined: " ++
          " ".intercalate (finding.remedy.map Attribute.name)) ∧
      (∃ position, finding.rolePosition? attr.words = some position ∧
        (reportAt? ontology index (element.append finding.remedy) = none ∨
          ∃ next later, reportAt? ontology index (element.append finding.remedy) = some next ∧
            next.rolePosition? attr.words = some later ∧ position < later)) ∧
      ∀ added ∈ finding.remedy, Rule.propertyName.checkAttribute ontology
        (element.append finding.remedy) added = none) ∧
    (∀ further, reportAt? ontology index element = none →
      reportAt? ontology index (element.append further) = none) ∧
    ∀ steps, attr.words.length ≤ steps →
      reportAt? ontology index ((amend ontology index)^[steps] element) = none := by
  refine ⟨?_, ?_, ?_⟩
  · intro finding reported
    have progresses := report_progresses accepted written reported
    rw [reportAt?_of_written written] at reported
    rcases exists_firstUnmet reported with ⟨_, role, ⟨⟨word, _, unmet⟩, _⟩, rfl⟩
    have registered := role?_of_unmet? unmet
    refine ⟨⟨_, message_report accepted registered⟩, progresses, ?_⟩
    intro added isAdded
    exact check_of_mem_remedy accepted registered isAdded
  · intro further silent
    rw [reportAt?_of_written written] at silent
    rw [reportAt?_of_written (getElem?_append further written)]
    exact check_append_eq_none further silent
  · intro steps enough
    by_contra reported
    rcases Option.ne_none_iff_exists'.mp reported with ⟨finding, isReported⟩
    rcases (reportsFrom_iterate accepted written steps).2 finding isReported with
      ⟨position, isPosition, fromSteps⟩
    have bound := rolePosition?_lt isPosition
    omega

theorem acting_on_report_progresses_slider :
    let attr : Attribute := ⟨"role", some (.literal (.string "Slider checkbox SLIDER"))⟩
    let element : Element := ⟨"div", [⟨"aria-valuenow", none⟩, attr]⟩
    reportAt? .standard 1 element =
        some (.missingProperties "slider" "aria-valuemax aria-valuemin aria-valuenow") ∧
      reportAt? .standard 1 ((amend .standard 1)^[3] element) = none := by
  intro attr element
  have written : element.attributes[1]? = some attr := rfl
  have words : attr.words = ["Slider", "checkbox", "SLIDER"] := by decide +kernel
  let decl : RoleDecl := .requiring "slider" ["input", "range"] Taxonomy.rangeValues
  have last : Taxonomy.lastNamed? Taxonomy.standard (Text.upper "Slider") = some decl := by
    decide +kernel
  rcases Ontology.exists_ofDecl_of_lastNamed? Ontology.ofTables_standard last with
    ⟨ancestors, registered⟩
  have unmet : unmet? .standard element "Slider" = some (Role.ofDecl decl ancestors) := by
    refine unmet?_eq_some_iff.mpr ⟨?_, "ARIA-VALUEMIN", ?_, by decide +kernel⟩
    · simp [Ontology.concrete?, registered, Role.ofDecl, decl, RoleDecl.requiring]
    · rw [Dictionary.mem_keys, Role.contains_required_ofDecl]
      exact ⟨"aria-valuemin", by simp [decl, RoleDecl.requiring, Taxonomy.rangeValues], by decide⟩
  have progresses := acting_on_report_progresses Ontology.ofTables_standard written
  refine ⟨?_, progresses.2.2 3 (by simp [words])⟩
  rw [reportAt?_of_written written, check_eq, if_pos (by decide), words, List.findSome?_cons, unmet]
  have listed : " ".intercalate ((NameSet.ofList (Taxonomy.rangeValues.map Text.upper)).keys.map
      Text.lower) = "aria-valuemax aria-valuemin aria-valuenow" := by
    decide +kernel
  have named : Text.lower (Text.upper "slider") = "slider" := by decide
  exact congrArg some (congrArg₂ Finding.missingProperties named listed)

end RequiredProperty

end AccessAudit
