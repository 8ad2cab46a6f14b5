import PromptTemplate.Expansion.Unit
import PromptTemplate.Proofs.Bracket.Grammar

set_option autoImplicit false

namespace PromptTemplate.Bracket

open Text (isBlankChar)

/-- What can stand for an option: a trimmed text that is not empty and has no comma and no bracket. -/
structure IsOption (option : Text) : Prop extends Text.IsTidy option where
  unsplit : ',' ∉ option
  free : IsFree option

/-- The text of a group with a comma and a space between its options. -/
def written (before : Text) (options : List Text) (after : Text) : Text :=
  before ++ '[' :: (Text.join [',', ' '] options ++ ']' :: after)

theorem splitOptions_eq_tidied (inner : Text) : splitOptions inner = Text.tidied (Text.splitOn ',' inner) := rfl

theorem tidied_singleton_of_option {lead option : Text} (blank : ∀ c ∈ lead, isBlankChar c = true)
    (item : IsOption option) : Text.tidied [lead ++ option] = [option] := by
  have trimmed : Text.trim (lead ++ option) = option := by
    have none : ∀ c ∈ ([] : Text), isBlankChar c = true := by simp
    have kept := Text.trim_append_of_blank blank option none
    rw [List.append_nil, item.trimmed] at kept
    exact kept
  simp [Text.tidied, trimmed, item.nonempty]

theorem splitOptions_append {item : Text} (unsplit : ',' ∉ item) (rest : Text) :
    splitOptions (item ++ ',' :: rest) = Text.tidied [item] ++ splitOptions rest := by
  rw [splitOptions_eq_tidied, Text.splitOn_append unsplit, splitOptions_eq_tidied, Text.tidied, List.map_cons,
    ← List.singleton_append, List.filter_append]
  rfl

/-- Options that are joined are split again. Each of them but the first has the space of its separator before it,
so that blank characters are let stand before the whole. -/
theorem splitOptions_append_join {options : List Text} (items : ∀ option ∈ options, IsOption option) {lead : Text}
    (blank : ∀ c ∈ lead, isBlankChar c = true) :
    splitOptions (lead ++ Text.join [',', ' '] options) = options := by
  have unsplit : ',' ∉ lead := fun member => absurd (blank ',' member) (by decide)
  induction options generalizing lead with
  | nil =>
      refine splitOptions_eq_nil_iff.mpr fun c member => Or.inr (blank c ?_)
      simpa [Text.join] using member
  | cons first rest ih =>
      rw [List.forall_mem_cons] at items
      have whole : ',' ∉ lead ++ first := by simp [unsplit, items.1.unsplit]
      cases rest with
      | nil =>
          have joined : Text.join [',', ' '] [first] = first := by simp [Text.join]
          rw [joined, splitOptions_eq_tidied, Text.splitOn_of_not_mem whole, tidied_singleton_of_option blank items.1]
      | cons second others =>
          have regrouped : lead ++ Text.join [',', ' '] (first :: second :: others) =
              (lead ++ first) ++ ',' :: ([' '] ++ Text.join [',', ' '] (second :: others)) := by
            simp [Text.join_cons_cons]
          have space : ∀ c ∈ [' '], isBlankChar c = true := List.forall_mem_singleton.mpr rfl
          rw [regrouped, splitOptions_append whole, tidied_singleton_of_option blank items.1,
            ih items.2 space (by decide), List.singleton_append]

theorem splitOptions_join {options : List Text} (items : ∀ option ∈ options, IsOption option) :
    splitOptions (Text.join [',', ' '] options) = options := by
  have none : ∀ c ∈ ([] : Text), isBlankChar c = true := by simp
  exact splitOptions_append_join items none

section

variable {before after : Text} {options : List Text}

theorem isGroup_written (outside : IsFree before) (behind : IsFree after) (present : options ≠ [])
    (items : ∀ option ∈ options, IsOption option) :
    IsGroup (written before options after) before (Text.join [',', ' '] options) after := by
  have split := splitOptions_join items
  have separator : ∀ c ∈ [',', ' '], isBracket c = false := by simp [isBracket]
  refine ⟨⟨rfl, outside, Text.forall_mem_join separator fun option member => (items option member).free, behind⟩, ?_⟩
  -- A blank text would leave no option.
  by_contra blank
  rw [Bool.not_eq_false, Text.isBlank, List.all_eq_true] at blank
  rw [splitOptions_eq_nil_iff.mpr fun c member => Or.inr (blank c member)] at split
  exact present split.symm

theorem group?_written (outside : IsFree before) (behind : IsFree after) (present : options ≠ [])
    (items : ∀ option ∈ options, IsOption option) :
    group? (written before options after) = .ok ⟨before, after, options, Text.join [',', ' '] options⟩ :=
  group?_eq_ok_iff.mpr ⟨isGroup_written outside behind present items,
    (splitOptions_join items).symm⟩

end

theorem isOption_of_mem_splitOptions {inner option : Text} (free : IsFree inner)
    (member : option ∈ splitOptions inner) : IsOption option := by
  rw [splitOptions_eq_tidied] at member
  obtain ⟨item, among, rfl⟩ := List.mem_map.mp (List.mem_filter.mp member).1
  have plain : ∀ c ∈ item, isBracket c = false :=
    Text.forall_mem_splitOn.mpr (fun c inside => Or.inr (free c inside)) item among
  exact ⟨Text.isTidy_of_mem_tidied member, fun comma => Text.not_mem_of_mem_splitOn among (Text.mem_of_mem_trim comma),
    fun c inside => plain c (Text.mem_of_mem_trim inside)⟩

theorem isOption_of_mem_options {text option : Text} {group : Group} (grouped : group? text = .ok group)
    (member : option ∈ group.options) : IsOption option := by
  obtain ⟨found, split⟩ := group?_eq_ok_iff.mp grouped
  exact isOption_of_mem_splitOptions found.free_inner (split ▸ member)

/-- Groups round-trip. Options that can be written are read back between the texts that they were written between;
every option that is read can be written, and a group that has options, written anew and read again, has the same
options between the same texts, so that it makes the same prompts or fails alike under any settings. -/
theorem groups_round_trip :
    (∀ before options after, IsFree before → IsFree after → options ≠ [] → (∀ option ∈ options, IsOption option) →
      ∃ group, group? (written before options after) = .ok group ∧
        group.before = before ∧ group.options = options ∧ group.after = after) ∧
    ∀ text group, group? text = .ok group →
      (∀ option ∈ group.options, IsOption option) ∧
      (group.options ≠ [] → ∃ again, group? (written group.before group.options group.after) = .ok again ∧
        again.before = group.before ∧ again.options = group.options ∧ again.after = group.after ∧
        ∀ settings, again.units? settings = group.units? settings) := by
  refine ⟨?_, ?_⟩
  · intro before options after outside behind present items
    exact ⟨_, group?_written outside behind present items, rfl, rfl, rfl⟩
  · intro text group grouped
    obtain ⟨found, _⟩ := group?_eq_ok_iff.mp grouped
    have items : ∀ option ∈ group.options, IsOption option := fun _ member => isOption_of_mem_options grouped member
    refine ⟨items, fun present => ?_⟩
    exact ⟨_, group?_written found.free_before found.free_after present items, rfl, rfl, rfl, fun _ => rfl⟩

/-- Doubled commas and exotic blanks are lost in writing, and what is written then is kept. -/
theorem groups_round_trip_without_blanks :
    let text := "A [\u2003red hot,, blue ,]!".toList
    let read : Group := ⟨"A ".toList, "!".toList, ["red hot".toList, "blue".toList], "\u2003red hot,, blue ,".toList⟩
    group? text = .ok read ∧
      written read.before read.options read.after = "A [red hot, blue]!".toList ∧
      ∃ again, group? "A [red hot, blue]!".toList = .ok again ∧ again.options = read.options ∧
        ∀ settings, again.units? settings = read.units? settings := by
  intro text read
  have grouped : group? text = .ok read := by
    simp only [text, read]
    cbv
  have outside : IsFree read.before := by simp [read, IsFree, isBracket]
  have behind : IsFree read.after := by simp [read, IsFree, isBracket]
  have present : read.options ≠ [] := by simp [read]
  obtain ⟨encoded, parsed⟩ := groups_round_trip
  obtain ⟨items, rewritten⟩ := parsed text read grouped
  obtain ⟨again, reread, _, _, _, alike⟩ := rewritten present
  obtain ⟨group, made, _, options, _⟩ := encoded read.before read.options read.after outside behind present items
  obtain rfl := Except.ok.inj (made.symm.trans reread)
  exact ⟨grouped, rfl, group, made, options, alike⟩

end PromptTemplate.Bracket
