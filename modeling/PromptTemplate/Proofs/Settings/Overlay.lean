import PromptTemplate.Proofs.Assoc.Keys
import PromptTemplate.Proofs.Settings.Validity

set_option autoImplicit false

namespace PromptTemplate.Settings

/-- Changes as the entries of a map. -/
def entries (changes : List (Text × Value)) : List (Value × Value) :=
  changes.map fun change => (.text change.1, change.2)

def isFieldName (key : Text) : Bool :=
  Field.all.any (·.name.toList == key)

/-- Changes with those under the names of fields in front. -/
def namesFirst (changes : List (Text × Value)) : List (Text × Value) :=
  changes.filter (isFieldName ·.1) ++ changes.filter (!isFieldName ·.1)

/-- No change under the name of a field stands behind one under another spelling of it. -/
def NameLeads (changes : List (Text × Value)) (field : Field) : Prop :=
  changes.Pairwise fun first second => second.1 = field.name.toList → ¬ Names (.text first.1) field

theorem isFieldName_iff {key : Text} : isFieldName key = true ↔ ∃ field : Field, field.name.toList = key := by
  simp [isFieldName, Field.mem_all]

theorem Names.eq_name {key : Text} {field : Field} (named : Names (.text key) field)
    (own : isFieldName key = true) : key = field.name.toList := by
  obtain ⟨other, rfl⟩ := isFieldName_iff.mp own
  rw [named.unique (Field.ofKey?_name other)]

theorem entries_append (front back : List (Text × Value)) : entries (front ++ back) = entries front ++ entries back :=
  List.map_append

theorem lastGiven?_entries_cons (key : Text) (value : Value) (rest : List (Text × Value)) (field : Field) :
    lastGiven? (entries ((key, value) :: rest)) field =
      (lastGiven? (entries rest) field).or (if Field.ofKey? key = some field then some value else none) :=
  lastGiven?_cons (.text key, value) (entries rest) field

theorem lastGiven?_namesFirst (changes : List (Text × Value)) (field : Field) :
    lastGiven? (entries (namesFirst changes)) field =
      (lastGiven? (entries (changes.filter (!isFieldName ·.1))) field).or
        (lastGiven? (entries (changes.filter (isFieldName ·.1))) field) := by
  rw [namesFirst, entries_append, lastGiven?_append]

theorem lastGiven?_entries_eq_none_iff {changes : List (Text × Value)} {field : Field} :
    lastGiven? (entries changes) field = none ↔ ∀ change ∈ changes, ¬ Names (.text change.1) field := by
  rw [lastGiven?_eq_none_iff, entries, List.forall_mem_map]

theorem mem_namesFirst {changes : List (Text × Value)} {change : Text × Value} :
    change ∈ namesFirst changes ↔ change ∈ changes := by
  rw [namesFirst, List.mem_append, List.mem_filter, List.mem_filter, ← and_or_left]
  cases isFieldName change.1 <;> simp

/-- Where the name of a field leads, it makes no difference that names come first. -/
theorem NameLeads.lastGiven?_eq {changes : List (Text × Value)} {field : Field} (leads : NameLeads changes field) :
    lastGiven? (entries (namesFirst changes)) field = lastGiven? (entries changes) field := by
  rw [lastGiven?_namesFirst]
  induction changes with
  | nil => rfl
  | cons change rest ih =>
      obtain ⟨key, value⟩ := change
      obtain ⟨front, others⟩ := List.pairwise_cons.mp leads
      have behind := ih others
      rw [lastGiven?_entries_cons, ← behind]
      cases own : isFieldName key with
      | true => simp only [List.filter_cons, own, Bool.not_true, if_true, Bool.false_eq_true, if_false,
          lastGiven?_entries_cons, Option.or_assoc]
      | false =>
          simp only [List.filter_cons, own, Bool.not_false, if_true, Bool.false_eq_true, if_false,
            lastGiven?_entries_cons]
          by_cases named : Field.ofKey? key = some field
          · have unnamed : lastGiven? (entries (rest.filter (isFieldName ·.1))) field = none := by
              rw [lastGiven?_entries_eq_none_iff]
              intro later member also
              obtain ⟨among, isOwn⟩ := List.mem_filter.mp member
              exact front later among (also.eq_name isOwn) named
            rw [unnamed, Option.or_none, Option.or_none]
          · rw [if_neg named, Option.or_none, Option.or_none]

namespace Record

/-- A value for a field that is written under its name takes the place of the old one. -/
theorem insertBy_name {fields : List Field} (nodup : fields.Nodup) (record : Record)
    (behind : List (Value × Value)) {field : Field} (member : field ∈ fields) (value : Value) :
    Assoc.insertBy Value.sameKey
        ((fields.map fun field => (.text field.name.toList, record field)) ++ behind) (.text field.name.toList) value =
      (fields.map fun other => (.text other.name.toList, Function.update record field value other)) ++ behind := by
  induction fields with
  | nil => cases member
  | cons first rest ih =>
      obtain ⟨fresh, others⟩ := List.nodup_cons.mp nodup
      rw [List.map_cons, List.cons_append, Assoc.insertBy, List.map_cons, List.cons_append]
      by_cases same : first = field
      · subst same
        have untouched : ∀ other ∈ rest, Function.update record first value other = record other := by
          rintro other among
          exact Function.update_of_ne (by rintro rfl; exact fresh among) _ _
        rw [if_pos (by simp [Value.sameKey]), Function.update_self]
        congr 2
        exact List.map_congr_left fun other among => by rw [untouched other among]
      · have differ : first.name.toList ≠ field.name.toList := fun equal => same (Field.name_injective equal)
        rw [if_neg (by simpa [Value.sameKey] using differ), Function.update_of_ne same,
          ih others (List.mem_of_ne_of_mem (Ne.symm same) member)]

def under (record : Record) (changes : List (Text × Value)) : Record := fun field =>
  (lastGiven? (entries (changes.filter (isFieldName ·.1))) field).getD (record field)

theorem under_cons_name (record : Record) (field : Field) (value : Value) (rest : List (Text × Value)) :
    record.under ((field.name.toList, value) :: rest) = under (Function.update record field value) rest := by
  funext other
  have own : isFieldName field.name.toList = true := isFieldName_iff.mpr ⟨field, rfl⟩
  simp only [under, List.filter_cons, own, if_true, lastGiven?_entries_cons, Field.ofKey?_name]
  cases lastGiven? (entries (rest.filter (isFieldName ·.1))) other with
  | some later => rfl
  | none =>
      by_cases same : other = field
      · subst same
        simp
      · simp [Function.update_of_ne same, Ne.symm same]

theorem under_cons_other (record : Record) {key : Text} (other : isFieldName key = false) (value : Value)
    (rest : List (Text × Value)) : record.under ((key, value) :: rest) = record.under rest := by
  funext field
  simp only [under, List.filter_cons, other, Bool.false_eq_true, if_false]

/-- Merging changes into the map of a record writes those under names in place and the others, as their keys differ,
behind them in their order. -/
theorem merge_eq (record : Record) (others : List (Text × Value)) {changes : List (Text × Value)}
    (distinct : ((others ++ changes).map (·.1)).Nodup) (spelled : ∀ change ∈ others, isFieldName change.1 = false) :
    merge (record.toPairs ++ entries others) changes =
      (record.under changes).toPairs ++ entries (others ++ changes.filter (!isFieldName ·.1)) := by
  induction changes generalizing record others with
  | nil =>
      rw [List.filter_nil, List.append_nil]
      rfl
  | cons change rest ih =>
      obtain ⟨key, value⟩ := change
      have step : ∀ pairs, merge pairs ((key, value) :: rest) =
          merge (Assoc.insertBy Value.sameKey pairs (.text key) value) rest := fun _ => rfl
      rw [step]
      cases own : isFieldName key with
      | true =>
          obtain ⟨field, rfl⟩ := isFieldName_iff.mp own
          have left : ((others ++ rest).map (·.1)).Nodup :=
            (((List.sublist_cons_self _ rest).append_left others).map (·.1)).nodup distinct
          rw [toPairs, insertBy_name (by decide) record _ field.mem_all, under_cons_name,
            List.filter_cons_of_neg (by simp [own])]
          exact ih (Function.update record field value) others left spelled
      | false =>
          have fresh : ∀ entry ∈ record.toPairs ++ entries others, Value.sameKey entry.1 (.text key) = false := by
            intro entry member
            rcases List.mem_append.mp member with named | behind
            · obtain ⟨field, _, rfl⟩ := List.mem_map.mp named
              have differ : field.name.toList ≠ key := fun same =>
                Bool.false_ne_true (own.symm.trans (isFieldName_iff.mpr ⟨field, same⟩))
              simpa [Value.sameKey] using differ
            · obtain ⟨earlier, among, rfl⟩ := List.mem_map.mp behind
              rw [List.map_append, List.nodup_append] at distinct
              have differ : earlier.1 ≠ key :=
                distinct.2.2 _ (List.mem_map_of_mem among) _ (List.mem_map_of_mem List.mem_cons_self)
              simpa [Value.sameKey] using differ
          have shifted : record.toPairs ++ entries others ++ [(.text key, value)] =
              record.toPairs ++ entries (others ++ [(key, value)]) := by
            rw [entries_append, List.append_assoc]
            rfl
          have apart : ((others ++ [(key, value)] ++ rest).map (·.1)).Nodup := by
            rwa [List.append_assoc, List.singleton_append]
          rw [Assoc.insertBy_of_fresh _ fresh, shifted, ih record _ apart, under_cons_other record own,
            List.filter_cons_of_pos (by simp [own]), List.append_assoc, List.singleton_append]
          intro change member
          rcases List.mem_append.mp member with earlier | last
          · exact spelled change earlier
          · rw [List.mem_singleton.mp last]
            exact own

/-- What the merged map gives for a field: the last change if names came first, or else the old value. -/
theorem lastGiven?_merge (record : Record) {changes : List (Text × Value)} (distinct : (changes.map (·.1)).Nodup)
    (field : Field) :
    lastGiven? (merge record.toPairs changes) field =
      some ((lastGiven? (entries (namesFirst changes)) field).getD (record field)) := by
  have merged := merge_eq record [] distinct (List.forall_mem_nil _)
  have named : lastGiven? (record.under changes).toPairs field = some (record.under changes field) :=
    (lastGiven?_map_name Field.all _ field).trans (if_pos field.mem_all)
  rw [show entries [] = [] from rfl, List.append_nil, List.nil_append] at merged
  rw [merged, lastGiven?_append, named, lastGiven?_namesFirst, under]
  cases lastGiven? (entries (changes.filter (!isFieldName ·.1))) field <;> simp

variable {formula : Formula.Evaluator}

theorem takes_of_ofPairs? {pairs : List (Value × Value)} {record : Record}
    (accepted : ofPairs? pairs formula = .ok record) {field : Field} {value : Value}
    (given : lastGiven? pairs field = some value) : Takes formula field value (record field) := by
  simp only [ofPairs?, bind_eq_ok] at accepted
  obtain ⟨fields, read, _, _, _, _, settled, priced, ordered⟩ := accepted
  have held : ofFields settled = record := by
    rw [checkThresholds] at ordered
    split at ordered
    · split at ordered
      · cases ordered
      · exact Except.ok.inj ordered
    · exact Except.ok.inj ordered
  have related := rel_of_readPrice? priced field
  rw [get?_of_fieldsOf? read, given, Option.some_or] at related
  rw [← held, ofFields]
  generalize settled.get? field = stored at related
  cases related with
  | some takes => exact takes

theorem eq_of_takes {record : Record} (sound : record.IsSound) {field : Field} {stored : Value}
    (takes : Takes formula field (record field) stored) : stored = record field := by
  generalize was : record field = value at takes
  cases takes with
  | noPrice => rfl
  | other => rfl
  | @price _ price proper read =>
      rcases sound.price with nothing | ⟨amount, found, allowed⟩
      · exact absurd (was.symm.trans nothing) proper
      · rw [found] at was
        subst was
        rw [Price.ofValue_float allowed] at read
        cases read
        rfl

end Record

/-- Changes to loaded settings are laid over them. A field that no key names keeps its value. Of the changes to a field
the last one is taken once those under the names of fields are put in front; this is the last one altogether, which
reading the changes by themselves takes, unless the name of the field stands behind another spelling of it. -/
theorem replace_overlays_with_names_first (formula : Formula.Evaluator) {data : Value} {settings result : Settings}
    {changes : List (Text × Value)} (loaded : ofValue? data formula = .ok settings)
    (distinct : (changes.map (·.1)).Nodup) (replaced : settings.replace? changes formula = .ok result)
    (field : Field) :
    (lastGiven? (entries changes) field = none → result.value field = settings.value field) ∧
    (∀ value, lastGiven? (entries (namesFirst changes)) field = some value →
      Takes formula field value (result.value field)) ∧
    (NameLeads changes field →
      lastGiven? (entries (namesFirst changes)) field = lastGiven? (entries changes) field) ∧
    ∀ alone, ofPairs? (entries changes) formula = .ok alone → ∀ value,
      lastGiven? (entries changes) field = some value → Takes formula field value (alone.value field) := by
  have accepted : Record.ofPairs? (merge (Record.toPairs settings.value) changes) formula = .ok result.value := by
    have changed := Record.replace?_value formula settings changes
    rw [replaced] at changed
    exact changed
  have merged := Record.lastGiven?_merge settings.value distinct field
  refine ⟨?_, ?_, NameLeads.lastGiven?_eq, ?_⟩
  · intro untouched
    have unnamed : lastGiven? (entries (namesFirst changes)) field = none := by
      rw [lastGiven?_entries_eq_none_iff] at untouched ⊢
      exact fun change member => untouched change (mem_namesFirst.mp member)
    rw [unnamed, Option.getD_none] at merged
    exact Record.eq_of_takes (isSound_of_ofValue? loaded).record (Record.takes_of_ofPairs? accepted merged)
  · intro value taken
    rw [taken, Option.getD_some] at merged
    exact Record.takes_of_ofPairs? accepted merged
  · intro alone read value taken
    have held : Record.ofPairs? (entries changes) formula = .ok alone.value := by
      rw [Record.ofPairs?_eq, read]
      rfl
    exact Record.takes_of_ofPairs? held taken

/-- A limit under its name and then under another spelling takes the second value, and what is not named stays. -/
theorem replace_overlays_name_and_spelling :
    let changes : List (Text × Value) :=
      [("max_bracket_options".toList, .int 4), ("warnThreshold".toList, .int 20), ("maxOptions".toList, .int 7)]
    ∃ settings result, ofValue? (.map [(.text "maxPreview".toList, .int 3)]) = .ok settings ∧
      settings.replace? changes = .ok result ∧ NameLeads changes .maxBracketOptions ∧
      Takes Formula.evaluate .maxBracketOptions (.int 7) (result.value .maxBracketOptions) ∧
      result.value .maxPreview = settings.value .maxPreview := by
  intro changes
  have loaded : ofValue? (.map [(.text "maxPreview".toList, .int 3)]) = .ok { maxPreview := 3 } := rfl
  have replaced : replace? { maxPreview := 3 } changes =
      .ok { maxBracketOptions := 7, maxPreview := 3, warnThreshold := 20 } := rfl
  have distinct : (changes.map (·.1)).Nodup := by decide
  have leads : NameLeads changes .maxBracketOptions := by
    unfold NameLeads Names
    decide
  obtain ⟨_, taken, same, _⟩ := replace_overlays_with_names_first Formula.evaluate loaded distinct replaced .maxBracketOptions
  obtain ⟨kept, _⟩ := replace_overlays_with_names_first Formula.evaluate loaded distinct replaced .maxPreview
  have last : lastGiven? (entries changes) .maxBracketOptions = some (.int 7) := rfl
  exact ⟨_, _, loaded, replaced, leads, taken _ ((same leads).trans last), kept rfl⟩

/-- A limit under another spelling and then under its name takes the first value, though reading the changes by
themselves takes the second. -/
theorem name_behind_spelling_not_taken :
    let changes : List (Text × Value) := [("maxPreview".toList, .int 3), ("max_preview".toList, .int 4)]
    ofValue? .null = .ok {} ∧ (changes.map (·.1)).Nodup ∧
      lastGiven? (entries changes) .maxPreview = some (.int 4) ∧
      ofPairs? (entries changes) = .ok { maxPreview := 4 } ∧
      replace? {} changes = .ok { maxPreview := 3 } ∧
      ¬ Takes Formula.evaluate .maxPreview (.int 4) (value { maxPreview := 3 } .maxPreview) := by
  refine ⟨rfl, by decide, rfl, rfl, rfl, ?_⟩
  rintro ⟨⟩

end PromptTemplate.Settings
