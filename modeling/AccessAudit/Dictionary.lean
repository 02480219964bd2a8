/-!
# Dictionaries

Finite maps from texts, kept as lists of entries in strictly ascending order of their keys. The
order is that of the code points, which is also the order in which the entries are listed,
written and checked. Inserting under a key that is present replaces its value.
-/

namespace AccessAudit

variable {α β : Type}

/-- Insert an entry into an ascending list of entries, replacing the value of an equal key. -/
def insertEntry (key : String) (value : α) : List (String × α) → List (String × α)
  | [] => [(key, value)]
  | (other, kept) :: rest =>
    if key < other then (key, value) :: (other, kept) :: rest
    else if key = other then (key, value) :: rest
    else (other, kept) :: insertEntry key value rest

/-- The keys of a list of entries ascend strictly. -/
def AscendingKeys (entries : List (String × α)) : Prop :=
  entries.Pairwise fun left right => left.1 < right.1

theorem mem_insertEntry {key : String} {value : α} {entry : String × α}
    {entries : List (String × α)} (member : entry ∈ insertEntry key value entries) :
    entry = (key, value) ∨ entry ∈ entries := by
  induction entries with
  | nil => simpa [insertEntry] using member
  | cons head rest ih =>
    obtain ⟨other, kept⟩ := head
    unfold insertEntry at member
    split at member
    · simpa using member
    · split at member
      · rcases List.mem_cons.mp member with equal | inRest
        · exact Or.inl equal
        · exact Or.inr (List.mem_cons_of_mem _ inRest)
      · rcases List.mem_cons.mp member with equal | inRest
        · exact Or.inr (equal ▸ List.mem_cons_self ..)
        · exact (ih inRest).imp id (List.mem_cons_of_mem _)

theorem lt_of_not_lt_of_ne {left right : String} (notBelow : ¬left < right)
    (different : left ≠ right) : right < left :=
  Std.lt_of_le_of_ne (String.not_lt.mp notBelow) different.symm

/-- Insertion keeps the keys ascending. -/
theorem ascendingKeys_insertEntry (key : String) (value : α) {entries : List (String × α)}
    (ascending : AscendingKeys entries) : AscendingKeys (insertEntry key value entries) := by
  induction entries with
  | nil => simp [insertEntry, AscendingKeys]
  | cons head rest ih =>
    obtain ⟨other, kept⟩ := head
    obtain ⟨headBelow, restAscending⟩ := List.pairwise_cons.mp ascending
    unfold insertEntry
    split
    · rename_i below
      refine List.pairwise_cons.mpr ⟨?_, ascending⟩
      intro entry member
      rcases List.mem_cons.mp member with equal | inRest
      · exact equal ▸ below
      · exact String.lt_trans below (headBelow entry inRest)
    · split
      · rename_i _ equal
        refine List.pairwise_cons.mpr ⟨?_, restAscending⟩
        exact fun entry member => equal ▸ headBelow entry member
      · rename_i notBelow different
        refine List.pairwise_cons.mpr ⟨?_, ih restAscending⟩
        intro entry member
        rcases mem_insertEntry member with equal | inRest
        · exact equal ▸ lt_of_not_lt_of_ne notBelow different
        · exact headBelow entry inRest

theorem lookup_entry_cons (key wanted : String) (value : α) (entries : List (String × α)) :
    ((key, value) :: entries).lookup wanted =
      if wanted = key then some value else entries.lookup wanted := by
  by_cases equal : wanted = key
  · simp [equal]
  · simp [List.lookup_cons, equal, beq_eq_false_iff_ne.mpr equal]

theorem mem_of_lookup {key : String} {value : α} {entries : List (String × α)}
    (found : entries.lookup key = some value) : (key, value) ∈ entries := by
  obtain ⟨before, after, split, _⟩ := List.lookup_eq_some_iff.mp found
  simp [split]

/-- What is found under a key after an insertion: the new value under its own key, and what was
there before under any other. -/
theorem lookup_insertEntry (key wanted : String) (value : α) (entries : List (String × α)) :
    (insertEntry key value entries).lookup wanted =
      if wanted = key then some value else entries.lookup wanted := by
  induction entries with
  | nil => exact lookup_entry_cons key wanted value []
  | cons head rest ih =>
    obtain ⟨other, kept⟩ := head
    unfold insertEntry
    split
    · exact lookup_entry_cons ..
    · split
      · rename_i equal
        subst equal
        simp only [lookup_entry_cons]
        split <;> rfl
      · rename_i different
        simp only [lookup_entry_cons, ih]
        by_cases found : wanted = other
        · subst found
          rw [if_pos rfl, if_neg (Ne.symm different)]
          simp
        · simp [found]

/-- A key of an ascending list does not come back. -/
theorem ne_of_mem_rest {head entry : String × α} {rest : List (String × α)}
    (ascending : AscendingKeys (head :: rest)) (member : entry ∈ rest) : entry.1 ≠ head.1 := by
  intro same
  have below : head.1 < entry.1 := List.rel_of_pairwise_cons ascending member
  rw [same] at below
  exact String.lt_irrefl head.1 below

theorem mem_iff_lookup {key : String} {value : α} {entries : List (String × α)}
    (ascending : AscendingKeys entries) :
    (key, value) ∈ entries ↔ entries.lookup key = some value := by
  induction entries with
  | nil => simp
  | cons head rest ih =>
    obtain ⟨other, kept⟩ := head
    rw [lookup_entry_cons, List.mem_cons]
    by_cases same : key = other
    · subst same
      have notInRest : (key, value) ∉ rest := fun member => ne_of_mem_rest ascending member rfl
      simp [notInRest, eq_comm]
    · simp [same, ih (List.pairwise_cons.mp ascending).2]

/-- An ascending list has one entry of a key. -/
theorem filter_eq_singleton {key : String} {value : α} {entries : List (String × α)}
    (ascending : AscendingKeys entries) (member : (key, value) ∈ entries) :
    entries.filter (fun entry => entry.1 = key) = [(key, value)] := by
  induction entries with
  | nil => cases member
  | cons head rest ih =>
    rcases List.mem_cons.mp member with rfl | inRest
    · have others : rest.filter (fun entry => entry.1 = key) = [] := by
        apply List.filter_eq_nil_iff.mpr
        intro entry entryInRest
        simpa using ne_of_mem_rest ascending entryInRest
      simp [others]
    · have notHead : head.1 ≠ key := (ne_of_mem_rest ascending inRest).symm
      rw [List.filter_cons_of_neg (by simpa using notHead)]
      exact ih (List.pairwise_cons.mp ascending).2 inRest

/-- Inserting under a key that is present replaces its value where it stands. -/
theorem insertEntry_of_mem {key : String} {old : α} (value : α) {entries : List (String × α)}
    (ascending : AscendingKeys entries) (member : (key, old) ∈ entries) :
    insertEntry key value entries =
      entries.map fun entry => if entry.1 = key then (key, value) else entry := by
  induction entries with
  | nil => cases member
  | cons head rest ih =>
    obtain ⟨other, kept⟩ := head
    obtain ⟨headBelow, restAscending⟩ := List.pairwise_cons.mp ascending
    unfold insertEntry
    by_cases same : key = other
    · subst same
      have unchanged :
          rest.map (fun entry => if entry.1 = key then (key, value) else entry) = rest := by
        rw [List.map_congr_left fun entry inRest => if_neg (ne_of_mem_rest ascending inRest),
          List.map_id']
      simp [unchanged]
    · have inRest : (key, old) ∈ rest := by simpa [same] using member
      have below : other < key := headBelow _ inRest
      rw [if_neg (String.lt_asymm below), if_neg same, ih restAscending inRest]
      simp [Ne.symm same]

/-- Inserting behind all keys appends. -/
theorem insertEntry_of_lt {key : String} {entries : List (String × α)} (value : α)
    (below : ∀ entry ∈ entries, entry.1 < key) :
    insertEntry key value entries = entries ++ [(key, value)] := by
  induction entries with
  | nil => rfl
  | cons head rest ih =>
    have headBelow : head.1 < key := below head (List.mem_cons_self ..)
    have different : key ≠ head.1 := by
      rintro rfl
      exact String.lt_irrefl _ headBelow
    have restBelow : ∀ entry ∈ rest, entry.1 < key := fun entry member =>
      below entry (List.mem_cons_of_mem _ member)
    rw [insertEntry, if_neg (String.lt_asymm headBelow), if_neg different,
      ih restBelow, List.cons_append]

theorem insertEntry_map (f : α → β) (key : String) (value : α) (entries : List (String × α)) :
    insertEntry key (f value) (entries.map fun entry => (entry.1, f entry.2)) =
      (insertEntry key value entries).map fun entry => (entry.1, f entry.2) := by
  induction entries with
  | nil => rfl
  | cons head rest ih =>
    by_cases below : key < head.1 <;> by_cases same : key = head.1 <;>
      simp [insertEntry, below, same, ih]

theorem filter_insertEntry_of_ne {key wanted : String} (value : α) (different : key ≠ wanted)
    (entries : List (String × α)) :
    (insertEntry key value entries).filter (fun entry => entry.1 == wanted) =
      entries.filter fun entry => entry.1 == wanted := by
  induction entries with
  | nil => simp [insertEntry, different]
  | cons head rest ih =>
    unfold insertEntry
    split
    · simp [List.filter_cons, different]
    · split
      · rename_i same
        simp [← same, different]
      · simp [List.filter_cons, ih]

theorem filter_insertEntry_of_absent {key : String} {value : α} {entries : List (String × α)}
    (absent : entries.filter (fun entry => entry.1 == key) = []) :
    (insertEntry key value entries).filter (fun entry => entry.1 == key) = [(key, value)] := by
  induction entries with
  | nil => simp [insertEntry]
  | cons head rest ih =>
    have different : head.1 ≠ key := by
      intro same
      simp [same] at absent
    have absentBehind : rest.filter (fun entry => entry.1 == key) = [] := by
      simpa [different] using absent
    unfold insertEntry
    split
    · simp [different, absentBehind]
    · split
      · rename_i same
        exact absurd same.symm different
      · simp [different, ih absentBehind]

theorem insertEntry_perm {key : String} (value : α) {entries : List (String × α)}
    (absent : ∀ entry ∈ entries, entry.1 ≠ key) :
    (insertEntry key value entries).Perm ((key, value) :: entries) := by
  induction entries with
  | nil => exact .refl _
  | cons head rest ih =>
    obtain ⟨notHead, notInRest⟩ := List.forall_mem_cons.mp absent
    unfold insertEntry
    split
    · exact .refl _
    · split
      · rename_i same
        exact absurd same.symm notHead
      · exact ((ih notInRest).cons head).trans (.swap ..)

/-- A finite map from texts. -/
structure Dictionary (α : Type) where
  /-- The entries, in ascending order of their keys. -/
  entries : List (String × α)
  /-- No key occurs twice, and the order is strict. -/
  ascending : AscendingKeys entries

namespace Dictionary

/-- The dictionary without entries. -/
def empty : Dictionary α := ⟨[], List.Pairwise.nil⟩

/-- Add an entry; the value of a key that is present is replaced. -/
def insert (dictionary : Dictionary α) (key : String) (value : α) : Dictionary α :=
  ⟨insertEntry key value dictionary.entries,
    ascendingKeys_insertEntry key value dictionary.ascending⟩

/-- The value of a key. -/
def get? (dictionary : Dictionary α) (key : String) : Option α :=
  dictionary.entries.lookup key

/-- Nothing is found in the empty dictionary. -/
@[simp]
theorem get?_empty (key : String) : (empty : Dictionary α).get? key = none := rfl

/-- An insertion changes what is found under its own key only. -/
@[simp]
theorem get?_insert (dictionary : Dictionary α) (key wanted : String) (value : α) :
    (dictionary.insert key value).get? wanted =
      if wanted = key then some value else dictionary.get? wanted :=
  lookup_insertEntry key wanted value dictionary.entries

theorem mem_entries (dictionary : Dictionary α) {key : String} {value : α} :
    (key, value) ∈ dictionary.entries ↔ dictionary.get? key = some value :=
  mem_iff_lookup dictionary.ascending

/-- The key has a value. -/
def contains (dictionary : Dictionary α) (key : String) : Bool :=
  (dictionary.get? key).isSome

theorem contains_insert (dictionary : Dictionary α) (key wanted : String) (value : α) :
    (dictionary.insert key value).contains wanted = true ↔
      wanted = key ∨ dictionary.contains wanted = true := by
  by_cases same : wanted = key <;> simp [contains, same]

/-- The keys in ascending order. -/
def keys (dictionary : Dictionary α) : List String :=
  dictionary.entries.map Prod.fst

theorem mem_keys (dictionary : Dictionary α) (key : String) :
    key ∈ dictionary.keys ↔ dictionary.contains key = true := by
  simp [keys, contains, get?, List.lookup_isSome_iff]

/-- The number of entries. -/
def size (dictionary : Dictionary α) : Nat :=
  dictionary.entries.length

/-- The dictionary of a list of entries, of which later ones replace earlier ones. -/
def ofEntries (entries : List (String × α)) : Dictionary α :=
  entries.foldl (fun dictionary entry => dictionary.insert entry.1 entry.2) empty

theorem get?_foldl_insert (entries : List (String × α)) (dictionary : Dictionary α)
    (key : String) :
    (entries.foldl (fun dictionary entry => dictionary.insert entry.1 entry.2) dictionary).get?
        key =
      (entries.reverse.lookup key).or (dictionary.get? key) := by
  induction entries generalizing dictionary with
  | nil => rfl
  | cons entry rest ih =>
    rw [List.foldl_cons, ih, get?_insert, List.reverse_cons, List.lookup_append,
      lookup_entry_cons]
    by_cases same : key = entry.1 <;> simp [same]

/-- Under a key there is what the last entry of that key says. -/
theorem get?_ofEntries (entries : List (String × α)) (key : String) :
    (ofEntries entries).get? key = entries.reverse.lookup key := by
  rw [ofEntries, get?_foldl_insert, get?_empty, Option.or_none]

/-- Where no key occurs twice, the order of the entries makes no difference. -/
theorem get?_ofEntries_of_nodup {entries : List (String × α)}
    (distinct : (entries.map Prod.fst).Nodup) (key : String) :
    (ofEntries entries).get? key = entries.lookup key := by
  rw [get?_ofEntries]
  induction entries with
  | nil => rfl
  | cons entry rest ih =>
    obtain ⟨notInRest, restDistinct⟩ := List.nodup_cons.mp distinct
    rw [List.reverse_cons, List.lookup_append, ih restDistinct, lookup_entry_cons,
      lookup_entry_cons]
    by_cases same : key = entry.1
    · have absent : rest.lookup key = none := by
        cases found : rest.lookup key with
        | none => rfl
        | some value =>
          have member : key ∈ rest.map Prod.fst := List.mem_map_of_mem (mem_of_lookup found)
          exact absurd (same ▸ member) notInRest
      simp [absent, if_pos same]
    · simp [same]

/-- Add an entry unless its key is present. -/
def insertIfNew (dictionary : Dictionary α) (key : String) (value : α) : Dictionary α :=
  if dictionary.contains key then dictionary else dictionary.insert key value

theorem get?_insertIfNew (dictionary : Dictionary α) (key wanted : String) (value : α) :
    (dictionary.insertIfNew key value).get? wanted =
      (dictionary.get? wanted).or (if wanted = key then some value else none) := by
  unfold insertIfNew contains
  by_cases same : wanted = key
  · subst same
    cases found : dictionary.get? wanted <;> simp [found]
  · split <;> simp [same]

/-- What is there comes first, and under the other keys there is the new value. -/
theorem get?_foldl_insertIfNew (keys : List String) (value : α) (dictionary : Dictionary α)
    (wanted : String) :
    (keys.foldl (fun dictionary key => dictionary.insertIfNew key value) dictionary).get? wanted =
      (dictionary.get? wanted).or (if wanted ∈ keys then some value else none) := by
  induction keys generalizing dictionary with
  | nil => simp
  | cons key keys ih =>
    rw [List.foldl_cons, ih, get?_insertIfNew, Option.or_assoc]
    by_cases same : wanted = key <;> simp [same]

/-- Put a value behind those of its key. -/
def addTo (key : α → String) (buckets : Dictionary (List α)) (value : α) : Dictionary (List α) :=
  buckets.insert (key value) ((buckets.get? (key value)).getD [] ++ [value])

/-- The values of a list by their keys, those of one key in the order of the list. -/
def groupBy (key : α → String) (values : List α) : Dictionary (List α) :=
  values.foldl (addTo key) empty

theorem get?_foldl_addTo (key : α → String) (values : List α) (buckets : Dictionary (List α))
    (wanted : String) :
    (values.foldl (addTo key) buckets).get? wanted =
      if wanted ∈ values.map key then
        some ((buckets.get? wanted).getD [] ++ values.filter fun value => key value == wanted)
      else buckets.get? wanted := by
  induction values generalizing buckets with
  | nil => simp
  | cons value values ih =>
    rw [List.foldl_cons, ih, addTo, get?_insert]
    by_cases same : wanted = key value
    · subst same
      by_cases again : key value ∈ values.map key
      · simp [again]
      · have others : values.filter (fun other => key other == key value) = [] := by
          simpa [List.filter_eq_nil_iff] using again
        simp [again, others]
    · simp [same, Ne.symm same]

/-- A key has a bucket if a value has that key, and it holds the values of the key in order. -/
theorem get?_groupBy (key : α → String) (values : List α) (wanted : String) :
    (groupBy key values).get? wanted =
      if wanted ∈ values.map key then some (values.filter fun value => key value == wanted)
      else none := by
  simp [groupBy, get?_foldl_addTo]

theorem mem_keys_groupBy (key : α → String) (values : List α) (wanted : String) :
    wanted ∈ (groupBy key values).keys ↔ wanted ∈ values.map key := by
  rw [mem_keys, contains, get?_groupBy]
  split <;> simp [*]

theorem eq_of_entries {left right : Dictionary α} (same : left.entries = right.entries) :
    left = right := by
  cases left
  cases right
  cases same
  rfl

theorem entries_foldl_insert (dictionary : Dictionary α) (later : List (String × α))
    (ascending : AscendingKeys (dictionary.entries ++ later)) :
    (later.foldl (fun dictionary entry => dictionary.insert entry.1 entry.2) dictionary).entries =
      dictionary.entries ++ later := by
  induction later generalizing dictionary with
  | nil => simp
  | cons entry later ih =>
    have below : ∀ earlier ∈ dictionary.entries, earlier.1 < entry.1 := by
      intro earlier member
      exact (List.pairwise_append.mp ascending).2.2 earlier member entry (List.mem_cons_self ..)
    have extended : (dictionary.insert entry.1 entry.2).entries = dictionary.entries ++ [entry] :=
      insertEntry_of_lt entry.2 below
    rw [List.foldl_cons, ih, extended]
    · simp
    · rw [extended]
      simpa using ascending

/-- The entries of a dictionary make it up again. -/
theorem ofEntries_entries (dictionary : Dictionary α) :
    ofEntries dictionary.entries = dictionary := by
  apply eq_of_entries
  rw [ofEntries, entries_foldl_insert empty dictionary.entries dictionary.ascending]
  rfl

theorem perm_foldl_insert (dictionary : Dictionary α) (later : List (String × α))
    (distinct : ((dictionary.entries ++ later).map Prod.fst).Nodup) :
    (later.foldl (fun dictionary entry => dictionary.insert entry.1 entry.2) dictionary).entries.Perm
      (dictionary.entries ++ later) := by
  induction later generalizing dictionary with
  | nil => simp
  | cons entry later ih =>
    have absent : ∀ earlier ∈ dictionary.entries, earlier.1 ≠ entry.1 := by
      intro earlier member same
      rw [List.map_append, List.nodup_append] at distinct
      exact distinct.2.2 earlier.1 (List.mem_map_of_mem member) entry.1 (by simp) same
    have inserted : ((dictionary.insert entry.1 entry.2).entries ++ later).Perm
        (dictionary.entries ++ entry :: later) :=
      ((insertEntry_perm entry.2 absent).append_right later).trans List.perm_middle.symm
    rw [List.foldl_cons]
    apply (ih _ _).trans inserted
    exact (inserted.map Prod.fst).nodup_iff.mpr distinct

/-- Where no key occurs twice, a dictionary has the entries it is made of. -/
theorem perm_ofEntries {entries : List (String × α)}
    (distinct : (entries.map Prod.fst).Nodup) : (ofEntries entries).entries.Perm entries :=
  perm_foldl_insert empty entries distinct

theorem map_entries_foldl_insert (f : α → β) (later : List (String × α)) {before : Dictionary α}
    {mapped : Dictionary β}
    (isMapped : mapped.entries = before.entries.map fun entry => (entry.1, f entry.2)) :
    ((later.map fun entry => (entry.1, f entry.2)).foldl
        (fun dictionary entry => dictionary.insert entry.1 entry.2) mapped).entries =
      (later.foldl (fun dictionary entry => dictionary.insert entry.1 entry.2) before).entries.map
        fun entry => (entry.1, f entry.2) := by
  induction later generalizing before mapped with
  | nil => exact isMapped
  | cons entry later ih =>
    apply ih
    simp only [insert, isMapped, insertEntry_map]

theorem entries_ofEntries_map (f : α → β) (entries : List (String × α)) :
    (ofEntries (entries.map fun entry => (entry.1, f entry.2))).entries =
      (ofEntries entries).entries.map fun entry => (entry.1, f entry.2) :=
  map_entries_foldl_insert f entries rfl

end Dictionary

/-- A finite set of texts. -/
abbrev NameSet := Dictionary Unit

namespace NameSet

/-- Add every name of a list. -/
def insertAll (names : NameSet) (added : List String) : NameSet :=
  added.foldl (fun set name => Dictionary.insert set name ()) names

theorem contains_insertAll (names : NameSet) (added : List String) (wanted : String) :
    (names.insertAll added).contains wanted = true ↔
      wanted ∈ added ∨ names.contains wanted = true := by
  induction added generalizing names with
  | nil => simp [insertAll]
  | cons name added ih =>
    have next : names.insertAll (name :: added) =
        insertAll (Dictionary.insert names name ()) added := rfl
    rw [next, ih, Dictionary.contains_insert, List.mem_cons, ← or_assoc,
      or_comm (a := wanted ∈ added)]

/-- The set of the names of a list. -/
def ofList (names : List String) : NameSet :=
  insertAll Dictionary.empty names

theorem contains_ofList (names : List String) (wanted : String) :
    (ofList names).contains wanted = true ↔ wanted ∈ names := by
  rw [ofList, contains_insertAll]
  simp [Dictionary.contains]

end NameSet
end AccessAudit
