import PromptTemplate.Proofs.Expansion.Mappings
import PromptTemplate.Proofs.Text.Lines

set_option autoImplicit false

namespace PromptTemplate

namespace Text

theorem isTidy_of_mem_contentLines {content entry : Text} (member : entry ∈ contentLines content) : IsTidy entry :=
  isTidy_of_mem_tidied member

/-- The entries of a block, joined again, are a block of these entries. -/
theorem contentLines_join_contentLines (content : Text) :
    contentLines (join ['\n'] (contentLines content)) = contentLines content := by
  rw [contentLines_join fun _ member => not_isLineBreak_of_mem_contentLines member, tidied_contentLines]

end Text

theorem EntrySource.catalog_of_single (source : EntrySource) (name : Value) :
    Catalog.ofValue? (.map [(name, source.value)]) = .ok [⟨name.plain, Text.tidied source.entries⟩] :=
  Mapping.catalog_ofValue? [(name, source)]

/-- A block of lines and the list of its entries stand for each other. The entries of any block are not empty, neither
begin nor end with a blank character and hold no line break, and joined by line feeds they are the entries of what
they are joined to. Texts without line breaks, though some be blank or untrimmed, make up the same catalog under a name
as a list and as a block in which line feeds stand between them. -/
theorem content_and_entries_interchangeable :
    (∀ content : Text,
      let entries := Text.contentLines content
      (∀ entry ∈ entries, entry ≠ [] ∧ (∀ c ∈ entry.head?, Text.isBlankChar c = false) ∧
        (∀ c ∈ entry.getLast?, Text.isBlankChar c = false) ∧ ∀ c ∈ entry, Text.isLineBreak c = false) ∧
      Text.contentLines (Text.join ['\n'] entries) = entries) ∧
    ∀ (name : Value) (texts : List Text), (∀ text ∈ texts, ∀ c ∈ text, Text.isLineBreak c = false) →
      let catalog : Catalog := [⟨name.plain, Text.tidied texts⟩]
      Catalog.ofValue? (.map [(name, .list (texts.map .text))]) = .ok catalog ∧
        Catalog.ofValue? (.map [(name, .text (Text.join ['\n'] texts))]) = .ok catalog := by
  constructor
  · intro content entries
    refine ⟨fun entry member => ?_, Text.contentLines_join_contentLines content⟩
    have tidy := Text.isTidy_of_mem_contentLines member
    exact ⟨tidy.nonempty, tidy.begins, tidy.ends, Text.not_isLineBreak_of_mem_contentLines member⟩
  · intro name texts unbroken catalog
    refine ⟨EntrySource.catalog_of_single (.texts texts) name, ?_⟩
    have joined := EntrySource.catalog_of_single (.lines (Text.join ['\n'] texts)) name
    rw [EntrySource.entries, Text.tidied_contentLines, Text.contentLines_join unbroken] at joined
    exact joined

/-- A separator of fields is blank but breaks no line, and an empty text at the end is a line feed with nothing behind
it. -/
theorem interchangeable_of_blank_and_untrimmed :
    let texts : List Text := ["  ".toList, "calm\tsea ".toList, "\x1f".toList, "\u00a0odd".toList, []]
    let catalog : Catalog := [⟨"mood".toList, ["calm\tsea".toList, "odd".toList]⟩]
    (∀ text ∈ texts, ∀ c ∈ text, Text.isLineBreak c = false) ∧
      Catalog.ofValue? (.map [(.text "mood".toList, .list (texts.map .text))]) = .ok catalog ∧
      Catalog.ofValue? (.map [(.text "mood".toList, .text "  \ncalm\tsea \n\x1f\n\u00a0odd\n".toList)]) =
        .ok catalog := by
  intro texts catalog
  have unbroken : ∀ text ∈ texts, ∀ c ∈ text, Text.isLineBreak c = false := by simp [texts, Text.isLineBreak]
  have tidied : Text.tidied texts = ["calm\tsea".toList, "odd".toList] := by decide
  obtain ⟨listed, joined⟩ := content_and_entries_interchangeable.2 (.text "mood".toList) texts unbroken
  rw [tidied] at listed joined
  exact ⟨unbroken, listed, joined⟩

end PromptTemplate
