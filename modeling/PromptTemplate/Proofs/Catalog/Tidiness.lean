import PromptTemplate.Proofs.Catalog.Lookup
import PromptTemplate.Proofs.Loading.Origin
import PromptTemplate.Proofs.Text.Trimming
import PromptTemplate.Store

set_option autoImplicit false

namespace PromptTemplate

/-- A definition whose entries are trimmed and not blank. -/
def Definition.IsTidy (definition : Definition) : Prop :=
  ∀ entry ∈ definition.entries, Text.IsTidy entry

theorem Definition.isTidy_ofContent (name content : Text) : (ofContent name content).IsTidy :=
  fun _ member => Text.isTidy_of_mem_tidied member

namespace Catalog

/-- A catalog of tidy definitions. -/
def IsTidy (catalog : Catalog) : Prop :=
  ∀ definition ∈ catalog, definition.IsTidy

theorem IsTidy.entry {catalog : Catalog} (tidy : catalog.IsTidy) {name entry : Text}
    (member : entry ∈ catalog.entries name) : Text.IsTidy entry := by
  obtain ⟨definition, among, _, present⟩ := exists_definition_of_mem_entries member
  exact tidy definition among entry present

theorem IsTidy.distinct {catalog : Catalog} (tidy : catalog.IsTidy) : IsTidy catalog.distinct :=
  fun definition member => tidy definition (mem_of_mem_distinctAfter member)

theorem isTidy_of_definition? {name : Text} {value : Value} {definition : Definition}
    (made : definition? name value = .ok definition) : definition.IsTidy := by
  unfold definition? at made
  split at made
  · cases made
    exact Definition.isTidy_ofContent name _
  · cases made
    exact fun _ member => absurd member List.not_mem_nil
  · split at made
    · cases made
      exact fun _ member => Text.isTidy_of_mem_tidied member
    · cases made

theorem isTidy_of_map {pairs : List (Value × Value)} {catalog : Catalog}
    (made : ofValue? (.map pairs) = .ok catalog) : catalog.IsTidy := by
  intro definition member
  obtain ⟨_, _, read⟩ := exists_pair_of_map made definition member
  exact isTidy_of_definition? read

theorem isTidy_of_load {tree : FileTree} {path : Text} {read : Yaml.Reader} {catalog : Catalog}
    (made : (load tree path read).result = .ok catalog) : catalog.IsTidy := by
  intro definition member
  obtain ⟨_, _, read⟩ := isChecked_of_load made definition member
  exact isTidy_of_definition? read

end Catalog

theorem Store.isTidy_definitions (store : Store) (user : Text) : (store.definitions user).IsTidy := by
  intro definition member
  obtain ⟨item, _, rfl⟩ := List.mem_map.mp member
  exact Definition.isTidy_ofContent item.name item.content

end PromptTemplate
