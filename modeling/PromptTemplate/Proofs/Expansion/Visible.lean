import PromptTemplate.Proofs.Bracket.RoundTrip
import PromptTemplate.Proofs.Catalog.Tidiness
import PromptTemplate.Proofs.Cost.Billing
import PromptTemplate.Proofs.Expansion.Limits
import PromptTemplate.Proofs.Expansion.Parts
import PromptTemplate.Proofs.Expansion.Sources
import PromptTemplate.Proofs.Expansion.Wildcards
import PromptTemplate.Proofs.Reference.Names
import PromptTemplate.Proofs.Text.Words
import PromptTemplate.Store.Operation

set_option autoImplicit false

namespace PromptTemplate

theorem Reference.isVisible_substitute {text name value : Text} {picks : Text → Option Text}
    (named : name ∈ names text) (picked : picks name = some value) (visible : value.IsVisible) :
    (substitute picks text).IsVisible := by
  obtain ⟨c, member, inked⟩ := visible
  refine ⟨c, ?_, inked⟩
  obtain ⟨piece, among, refers⟩ := List.mem_filterMap.mp (mem_names_iff.mp named)
  refine List.mem_flatMap.mpr ⟨piece, among, ?_⟩
  cases piece with
  | literal d => cases refers
  | reference other =>
      cases refers
      rwa [fill, picked]

/-- The check of a chain sees to it that no step is blank. -/
theorem Chain.isVisible_of_mem_parts {maxSteps : Int} {prompt part : Text} (sound : fault? maxSteps prompt = none)
    (visible : prompt.IsVisible) (among : part ∈ parts prompt) : part.IsVisible := by
  by_cases barred : bar ∈ prompt
  · rw [parts_of_barred barred] at among
    obtain ⟨segment, cut, rfl⟩ := List.mem_map.mp among
    exact Text.isVisible_trim.mpr (Text.isVisible_iff.mpr ((segments_of_sound barred sound).1 segment cut))
  · rw [parts_of_unbarred barred] at among
    exact List.mem_singleton.mp among ▸ visible

namespace Bracket

theorem Group.isVisible_unit (group : Group) (trimWhitespace : Bool) {option : Text} (visible : option.IsVisible) :
    (group.unit trimWhitespace option).IsVisible := by
  have written : (group.before ++ option ++ group.after).IsVisible :=
    Text.isVisible_append.mpr (Or.inl (Text.isVisible_append.mpr (Or.inr visible)))
  rw [unit]
  split
  · exact written.collapse
  · exact written

end Bracket

section

variable {settings : Settings} {catalog : Catalog} {prompt : Text} (tidy : catalog.IsTidy)

include tidy

theorem UnitKind.isVisible_of_mem_expand {part : Text} {kind : UnitKind} (read : ofText? part = .ok kind)
    (visible : part.IsVisible) {unit : Text} (member : unit ∈ (kind.expand settings catalog).units) :
    unit.IsVisible := by
  cases kind with
  | plain text =>
      obtain rfl := text_of_ofText? read
      exact List.mem_singleton.mp member ▸ visible
  | bracketed text group =>
      obtain ⟨_, _, grouped⟩ := ofText?_eq_bracketed_iff.mp read
      simp only [expand] at member
      cases made : group.units? settings with
      | error issue =>
          rw [made] at member
          cases member
      | ok units =>
          rw [made] at member
          obtain ⟨_, _, rfl⟩ := Bracket.Group.units?_eq_ok_iff.mp made
          obtain ⟨option, among, rfl⟩ := List.mem_map.mp member
          exact group.isVisible_unit _ (Bracket.isOption_of_mem_options grouped among).isVisible
  | wildcarded text names =>
      obtain ⟨referring, rfl, rfl⟩ := ofText?_eq_wildcarded_iff.mp read
      obtain ⟨picks, selects, rfl⟩ := exists_selects_of_mem_expand referring member
      obtain ⟨name, named⟩ := List.exists_mem_of_ne_nil _ referring
      obtain ⟨value, picked⟩ := Option.isSome_iff_exists.mp ((selects.isSome_iff name).mpr named)
      have entry := tidy.entry (selects.mem_entries name value picked)
      exact Text.isVisible_trim.mpr (Reference.isVisible_substitute named picked entry.isVisible)

theorem IsPart.isVisible_of_mem_units {outcome : Outcome UnitKind} (part : IsPart settings catalog prompt outcome)
    (visible : prompt.IsVisible) {unit : Text} (member : unit ∈ outcome.units) : unit.IsVisible := by
  obtain ⟨sound, text, among, kind, read, rfl⟩ := part
  exact kind.isVisible_of_mem_expand tidy read (Chain.isVisible_of_mem_parts sound visible among) member

end

/-- An expansion in which nothing blank is made, kept for a step or run. -/
structure Expansion.IsVisible (expansion : Expansion) : Prop where
  units : ∀ unit ∈ expansion.units, unit.IsVisible
  steps : ∀ step ∈ expansion.steps, ∀ unit ∈ step.outcome.units, unit.IsVisible
  executed : ∀ run ∈ expansion.executionPrompts, ∃ text, run = some text ∧ text.IsVisible

theorem expand_isVisible (settings : Settings) {catalog : Catalog} (tidy : catalog.IsTidy) {prompt : Text}
    (visible : prompt.IsVisible) : (expand settings catalog prompt).IsVisible := by
  have units : ∀ unit ∈ (expand settings catalog prompt).units, unit.IsVisible := by
    intro unit member
    obtain ⟨outcome, part, among⟩ := exists_part_of_mem_units member
    exact part.isVisible_of_mem_units tidy visible among
  refine ⟨units, ?_, ?_⟩
  · intro step among unit member
    exact (isPart_of_mem_steps among).isVisible_of_mem_units tidy visible member
  · intro run member
    rw [executionPrompts_expand] at member
    obtain ⟨unit, among, rfl⟩ := List.mem_map.mp member
    exact ⟨unit, rfl, units unit among⟩

namespace Catalog

/-- The catalogs that are made from a map, loaded from a file or a directory, or taken from a store. -/
inductive IsBuilt : Catalog → Prop
  | map {pairs : List (Value × Value)} {catalog : Catalog} (made : ofValue? (.map pairs) = .ok catalog) :
      IsBuilt catalog
  | loaded {tree : FileTree} {path : Text} {read : Yaml.Reader} {catalog : Catalog}
      (made : (load tree path read).result = .ok catalog) : IsBuilt catalog
  | stored (operations : List Store.Operation) (user : Text) :
      IsBuilt ((Store.final {} operations).definitions user)

/-- The values that a catalog is given as: the map that it is made from, or its definitions in a row. -/
inductive IsGivenAs (catalog : Catalog) : Value → Prop
  | map {pairs : List (Value × Value)} (made : ofValue? (.map pairs) = .ok catalog) : IsGivenAs catalog (.map pairs)
  | row {source : Value} (row : IsRowOf catalog source) : IsGivenAs catalog source

theorem IsBuilt.isTidy {catalog : Catalog} (built : catalog.IsBuilt) : catalog.IsTidy := by
  cases built with
  | map made => exact isTidy_of_map made
  | loaded made => exact isTidy_of_load made
  | stored operations user => exact Store.isTidy_definitions _ user

theorem IsGivenAs.exists_checked {catalog : Catalog} {source : Value} (given : catalog.IsGivenAs source)
    (tidy : catalog.IsTidy) : ∃ checked, ofValue? source = .ok checked ∧ checked.IsTidy := by
  cases given with
  | map made => exact ⟨catalog, made, tidy⟩
  | row row => exact ⟨catalog.distinct, row.catalog_ofValue?, tidy.distinct⟩

end Catalog

/-- Nothing blank is generated from a prompt that is not blank. Over any catalog that is made from a map, loaded or
taken from a store, and under any settings, the prompt has an expansion, and every unit of it, every unit of its
steps and every prompt that it runs has a character that is not white space. -/
theorem generated_prompts_visible (settings : Settings) {prompt : Text} (inked : Text.isBlank prompt = false)
    {catalog : Catalog} (built : catalog.IsBuilt) {source : Value} (given : catalog.IsGivenAs source) :
    ∃ whole, expandOver? settings source prompt = .ok whole ∧
      (∀ unit ∈ whole.units, ∃ c ∈ unit, Text.isBlankChar c = false) ∧
      (∀ step ∈ whole.steps, ∀ unit ∈ step.outcome.units, ∃ c ∈ unit, Text.isBlankChar c = false) ∧
      ∀ run ∈ whole.executionPrompts, ∃ text, run = some text ∧ ∃ c ∈ text, Text.isBlankChar c = false := by
  obtain ⟨checked, made, tidy⟩ := given.exists_checked built.isTidy
  have visible := expand_isVisible settings tidy (Text.isVisible_iff.mpr inked)
  refine ⟨expand settings checked prompt, ?_, visible.units, visible.steps, visible.executed⟩
  rw [expandOver?, made]
  rfl

/-- Blank lines of a stored wildcard and blank options of a group are left out, and white space is collapsed. -/
theorem generated_prompts_visible_of_sparse_content :
    let operations : List Store.Operation := [.save "ann".toList "hero".toList "\n Bo \n\t\n".toList []]
    let source := Value.list (((Store.final {} operations).definitions "ann".toList).map .definition)
    ∃ whole, expandOver? {} source " _hero_\t|  [ , x,\n] ".toList = .ok whole ∧
      whole.executionPrompts = [some "Bo".toList, some "x".toList] ∧
      ∀ run ∈ whole.executionPrompts, ∃ text, run = some text ∧ ∃ c ∈ text, Text.isBlankChar c = false := by
  intro operations source
  have inked : Text.isBlank " _hero_\t|  [ , x,\n] ".toList = false := by decide
  have given : ((Store.final {} operations).definitions "ann".toList).IsGivenAs source := .row .list
  obtain ⟨whole, made, _, _, executed⟩ :=
    generated_prompts_visible {} inked (.stored operations "ann".toList) given
  refine ⟨whole, made, ?_, executed⟩
  have run : (expandOver? {} source " _hero_\t|  [ , x,\n] ".toList).map (·.executionPrompts) =
      .ok [some "Bo".toList, some "x".toList] := by
    have definitions : (Store.final {} operations).definitions "ann".toList = [⟨"hero".toList, ["Bo".toList]⟩] := by
      decide +kernel
    simp only [source, definitions]
    cbv
  rw [made] at run
  exact Except.ok.inj run

end PromptTemplate
