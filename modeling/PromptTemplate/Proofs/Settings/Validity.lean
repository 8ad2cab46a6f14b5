import PromptTemplate.Proofs.Settings.Record

set_option autoImplicit false

namespace PromptTemplate.Settings

/-- What the fields of a checked record hold. -/
structure Record.IsSound (record : Record) : Prop where
  limits : ∀ field ∈ Field.limits, ∃ n : Int, record field = .int n ∧ 1 ≤ n
  flags : ∀ field ∈ Field.flags, ∃ b, record field = .bool b
  thresholds : ∃ warn danger : Int,
    record .warnThreshold = .int warn ∧ record .dangerThreshold = .int danger ∧ warn ≤ danger
  price : record .perUnitCost = .null ∨ ∃ price : Float, record .perUnitCost = .float price ∧ ¬ price < 0.0

theorem IsSound.record {settings : Settings} (sound : settings.IsSound) : Record.IsSound settings.value where
  limits := by
    intro field member
    cases field with
    | maxBracketOptions => exact ⟨_, rfl, sound.maxBracketOptions_pos⟩
    | maxPreview => exact ⟨_, rfl, sound.maxPreview_pos⟩
    | warnThreshold => exact ⟨_, rfl, sound.warnThreshold_pos⟩
    | dangerThreshold => exact ⟨_, rfl, sound.dangerThreshold_pos⟩
    | maxPipelineSteps => exact ⟨_, rfl, sound.maxPipelineSteps_pos⟩
    | trimWhitespace | enforceThresholds | perUnitCost => exact absurd member (by decide)
  flags := by
    intro field member
    cases field with
    | trimWhitespace | enforceThresholds => exact ⟨_, rfl⟩
    | _ => exact absurd member (by decide)
  thresholds := ⟨_, _, rfl, rfl, sound.thresholds_ordered⟩
  price := by
    rcases sound.cost_sound with unpriced | ⟨price, priced, allowed⟩
    · exact Or.inl (by simp [value, unpriced])
    · exact Or.inr ⟨price, by simp [value, priced], by simpa using allowed⟩

namespace Record

variable {formula : Formula.Evaluator}

theorem isSound_of_ofValue? {data : Value} {record : Record} (accepted : ofValue? data formula = .ok record) :
    record.IsSound := by
  rw [ofValue?_eq] at accepted
  cases read : Settings.ofValue? data formula with
  | error fault =>
      rw [read] at accepted
      cases accepted
  | ok settings =>
      rw [read] at accepted
      cases accepted
      exact (Settings.isSound_of_ofValue? read).record

theorem isSound_of_replace? {record next : Record} {changes : List (Text × Value)}
    (changed : record.replace? changes formula = .ok next) : next.IsSound := by
  have read : ofValue? (.map (merge record.toPairs changes)) formula = .ok next := changed
  exact isSound_of_ofValue? read

theorem isSound_of_foldlM {record last : Record} {chain : List (List (Text × Value))} (sound : record.IsSound)
    (replaced : chain.foldlM (replace? · · formula) record = .ok last) : last.IsSound := by
  induction chain generalizing record with
  | nil =>
      cases replaced
      exact sound
  | cons changes rest ih =>
      rw [List.foldlM_cons, bind_eq_ok] at replaced
      obtain ⟨next, changed, others⟩ := replaced
      exact ih (isSound_of_replace? changed) others

theorem readPrice?_of_isSound (formula : Formula.Evaluator) {record : Record} (sound : record.IsSound)
    {given : Assoc Field Value} (held : ∀ field, given.get? field = some (record field)) :
    ∃ settled, readPrice? given formula = .ok settled ∧ ∀ field, settled.get? field = some (record field) := by
  rw [readPrice?, held]
  rcases sound.price with nothing | ⟨price, found, allowed⟩
  · rw [nothing]
    exact ⟨given, rfl, held⟩
  · rw [found]
    simp only [Price.ofValue_float allowed]
    refine ⟨_, rfl, fun field => ?_⟩
    rw [Assoc.get?_insert, held]
    by_cases same : Field.perUnitCost = field
    · subst same
      rw [found, if_pos (by simp)]
    · rw [if_neg (by simpa using same)]

theorem ofPairs?_of_isSound {record : Record} (sound : record.IsSound) {pairs : List (Value × Value)}
    (named : ∀ entry ∈ pairs, ∃ field, Names entry.1 field)
    (gives : ∀ field, lastGiven? pairs field = some (record field)) : ofPairs? pairs formula = .ok record := by
  obtain ⟨given, read⟩ := (exists_fieldsOf?_iff _).mpr named
  have held : ∀ field, given.get? field = some (record field) := by
    intro field
    rw [get?_of_fieldsOf? read, gives, Option.some_or]
  have limits : Field.limits.forM (checkLimit given) = .ok () := by
    rw [forM_eq_ok]
    intro field member
    obtain ⟨n, found, positive⟩ := sound.limits field member
    exact checkLimit_eq_ok_iff.mpr fun value here =>
      ⟨n, (Option.some.inj (here.symm.trans (held field))).trans found, positive⟩
  have flags : Field.flags.forM (checkFlag given) = .ok () := by
    rw [forM_eq_ok]
    intro field member
    obtain ⟨b, found⟩ := sound.flags field member
    exact checkFlag_eq_ok_iff.mpr fun value here =>
      ⟨b, (Option.some.inj (here.symm.trans (held field))).trans found⟩
  obtain ⟨settled, priced, kept⟩ := readPrice?_of_isSound formula sound held
  have same : ofFields settled = record := by
    funext field
    rw [ofFields, kept, Option.getD_some]
  have ordered : checkThresholds record = .ok record := by
    obtain ⟨warn, danger, warned, endangered, order⟩ := sound.thresholds
    simp only [checkThresholds, warned, endangered]
    rw [if_neg (by omega)]
  rw [ofPairs?, bind_eq_ok]
  refine ⟨given, read, ?_⟩
  simp only [limits, flags, priced, bind, Except.bind]
  rw [same, ordered]

/-- A sound record passes its own check, and comes out of it as it is. -/
theorem replace?_nil {record : Record} (sound : record.IsSound) : record.replace? [] formula = .ok record := by
  apply ofPairs?_of_isSound sound
  · intro entry member
    obtain ⟨field, _, rfl⟩ := List.mem_map.mp member
    exact ⟨field, Field.ofKey?_name field⟩
  · intro field
    exact (lastGiven?_map_name Field.all record field).trans (if_pos field.mem_all)

/-- Whatever value a record is read from, whatever changes it goes through one after the other, and whatever evaluates
formulas in them, it comes out with positive integers as its limits, truth values as its flags, its thresholds in order,
and no price or a number that is not below zero. Without changes it is accepted again, and every field keeps its
value. -/
theorem valid_along_changes (formula : Formula.Evaluator) {data : Value} {record last : Record}
    {chain : List (List (Text × Value))} (loaded : ofValue? data formula = .ok record)
    (replaced : chain.foldlM (replace? · · formula) record = .ok last) :
    last.IsSound ∧ last.replace? [] formula = .ok last := by
  have sound : last.IsSound := isSound_of_foldlM (isSound_of_ofValue? loaded) replaced
  exact ⟨sound, replace?_nil sound⟩

/-- One threshold is changed first and the other one after it, and the price is taken away again. -/
theorem valid_along_two_changes :
    let data : Value := .map [(.text "maxPreview".toList, .int 3), (.text "per_unit_cost".toList, .int 2)]
    let chain : List (List (Text × Value)) :=
      [[("dangerThreshold".toList, .int 70)], [("warn_threshold".toList, .int 60), ("perUnitCost".toList, .null)]]
    ∃ record last, ofValue? data = .ok record ∧ chain.foldlM (replace? · ·) record = .ok last ∧
      last .warnThreshold = .int 60 ∧ last .perUnitCost = .null ∧ last.IsSound ∧ last.replace? [] = .ok last := by
  intro data chain
  have loaded : ofValue? data = .ok (value { maxPreview := 3, perUnitCost := some (.float 2.0) }) := by
    rw [ofValue?_eq]
    rfl
  have lowered : replace? (value { maxPreview := 3, perUnitCost := some (.float 2.0) })
      [("dangerThreshold".toList, .int 70)] =
        .ok (value { maxPreview := 3, dangerThreshold := 70, perUnitCost := some (.float 2.0) }) := by
    rw [replace?_value]
    rfl
  have raised : replace? (value { maxPreview := 3, dangerThreshold := 70, perUnitCost := some (.float 2.0) })
      [("warn_threshold".toList, .int 60), ("perUnitCost".toList, .null)] =
        .ok (value { maxPreview := 3, warnThreshold := 60, dangerThreshold := 70 }) := by
    rw [replace?_value]
    rfl
  have replaced : chain.foldlM (replace? · ·) (value { maxPreview := 3, perUnitCost := some (.float 2.0) }) =
      .ok (value { maxPreview := 3, warnThreshold := 60, dangerThreshold := 70 }) :=
    bind_eq_ok.mpr ⟨_, lowered, bind_eq_ok.mpr ⟨_, raised, rfl⟩⟩
  obtain ⟨sound, kept⟩ := valid_along_changes Formula.evaluate loaded replaced
  exact ⟨_, _, loaded, replaced, rfl, rfl, sound, kept⟩

end Record

end PromptTemplate.Settings
