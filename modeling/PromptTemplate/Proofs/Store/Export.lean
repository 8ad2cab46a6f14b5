import PromptTemplate.Proofs.Assoc.Keys
import PromptTemplate.Proofs.Loading.Documents
import PromptTemplate.Proofs.Store.Run

set_option autoImplicit false

namespace PromptTemplate

open Yaml (Document)

namespace Catalog

/-- What a catalog has to be to come through the loader as it is. -/
structure IsLoadable (catalog : Catalog) : Prop where
  distinct : (catalog.map (·.name)).Nodup
  valid : ∀ definition ∈ catalog, Name.fault? definition.name = none
  tidy : ∀ definition ∈ catalog, Text.tidied definition.entries = definition.entries

namespace IsLoadable

variable {catalog : Catalog} (loadable : catalog.IsLoadable)

include loadable

/-- Names that differ are keys that differ, so that no entry takes the place of another. -/
theorem document_eq : Store.document catalog = .map [(.text "wildcards".toList, .map catalog.pairs)] := by
  rw [Store.document, Assoc.ofListBy_of_distinct, pairs]
  rw [List.pairwise_map]
  exact (List.pairwise_map.mp loadable.distinct).imp fun differ => by simpa [Value.sameKey] using differ

theorem map_tidied : catalog.map .tidied = catalog := by
  have tidied : ∀ definition ∈ catalog, Definition.tidied definition = definition := fun definition member =>
    congrArg (Definition.mk definition.name) (loadable.tidy definition member)
  rw [List.map_congr_left tidied]
  exact List.map_id catalog

theorem ofDocument?_of_holds {document : Document} (path : FilePath)
    (held : document.holds document.root (Store.document catalog) = true) :
    ofDocument? path document = .ok catalog := by
  rw [loadable.document_eq] at held
  rw [ofDocument?_of_wrapped path held, ofNamed?_pairs loadable.valid, loadable.map_tidied,
    distinct_of_nodup loadable.distinct]

/-- It comes through any printer and any reader, as long as this reader restores what that printer writes and nothing
of it is a carriage return, which is not kept in a file. -/
theorem load_printed {tree : FileTree} {path : Text} {read : Yaml.Reader} {print : Value → Text}
    (held : tree.entry (.ofText path) = .file (String.ofList (print (Store.document catalog))).toUTF8)
    (unbroken : '\r' ∉ print (Store.document catalog))
    (restored : Yaml.restores (Store.document catalog) read print = true) :
    load tree path read = { result := .ok catalog } := by
  have text : tree.HoldsText (.ofText path) (print (Store.document catalog)) := held
  obtain ⟨document, holds, loaded⟩ := exists_load_of_holdsValue (text.holdsValue unbroken restored)
  rw [loaded, loadable.ofDocument?_of_holds _ holds]

theorem not_mem_print : '\r' ∉ Yaml.print (Store.document catalog) := by
  rw [loadable.document_eq]
  exact Yaml.not_mem_print _ texts_of_mem_pairs

end IsLoadable

end Catalog

namespace Store

theorem IsSound.isLoadable_definitions {store : Store} (sound : store.IsSound) (user : Text) :
    (store.definitions user).IsLoadable := by
  refine ⟨sound.nodup_names user, ?_, ?_⟩
  · intro definition member
    obtain ⟨item, among, rfl⟩ := List.mem_map.mp member
    exact sound.named item (List.mem_filter.mp among).1
  · intro definition member
    obtain ⟨item, among, rfl⟩ := List.mem_map.mp member
    exact Text.tidied_contentLines item.content

/-- What any printer makes of a user's definitions is loaded again as them, from whatever store a run from an empty one
leads to. -/
theorem load_exported_by (print : Value → Text) (operations : List Operation) (user : Text) (tree : FileTree)
    (path : Text) (read : Yaml.Reader)
    (held : tree.entry (.ofText path) =
      .file (String.ofList ((final {} operations).exportYaml user print)).toUTF8)
    (unbroken : '\r' ∉ (final {} operations).exportYaml user print)
    (restored : Yaml.restores (document ((final {} operations).definitions user)) read print = true) :
    Catalog.load tree path read = { events := [], result := .ok ((final {} operations).definitions user) } :=
  ((isSound_empty.final operations).isLoadable_definitions user).load_printed held unbroken restored

/-- What a user exports is loaded again as the user's definitions, from whatever store a run from an empty one leads
to, and by any reader that restores it. -/
theorem load_exported (operations : List Operation) (user : Text) (tree : FileTree) (path : Text) (read : Yaml.Reader)
    (held : tree.entry (.ofText path) =
      .file (String.ofList ((final {} operations).exportYaml user)).toUTF8)
    (restored : Yaml.restores (document ((final {} operations).definitions user)) read = true) :
    Catalog.load tree path read = { events := [], result := .ok ((final {} operations).definitions user) } := by
  have loadable := (isSound_empty.final operations).isLoadable_definitions user
  exact load_exported_by Yaml.print operations user tree path read held loadable.not_mem_print restored

theorem load_exported_of_odd_names :
    let operations : List Operation :=
      [.save "ann".toList "1".toList "one: 1\r\n  # two".toList standardCategory,
        .save "bob".toList "1".toList "other".toList standardCategory,
        .save "ann".toList "wildcards".toList "gone".toList standardCategory,
        .save "ann".toList "mood\n".toList "it's\n\x07yes".toList standardCategory,
        .update "wc_3".toList [("content".toList, " \n".toList)],
        .save "ann".toList "true".toList "null".toList standardCategory]
    let catalog : Catalog :=
      [⟨"1".toList, ["one: 1".toList, "# two".toList]⟩, ⟨"wildcards".toList, []⟩,
        ⟨"mood\n".toList, ["it's".toList, "\x07yes".toList]⟩, ⟨"true".toList, ["null".toList]⟩]
    let content := (String.ofList ((final {} operations).exportYaml "ann".toList)).toUTF8
    Catalog.load { files := [(.ofText "cards.yaml".toList, content)] } "cards.yaml".toList =
      { events := [], result := .ok catalog } := by
  intro operations catalog content
  have definitions : (final {} operations).definitions "ann".toList = catalog := by decide +kernel
  rw [← definitions]
  exact load_exported operations "ann".toList _ _ _ rfl (by decide +kernel)

end Store

end PromptTemplate
