import PromptTemplate.Proofs.Expansion.Mappings
import PromptTemplate.Proofs.Loading.Origin
import PromptTemplate.Proofs.Loading.Reading

set_option autoImplicit false

namespace PromptTemplate

namespace Yaml.Document

variable {document : Document}

/-- What is found under a key of a map that is held is held, and nothing is found where the map has nothing. -/
theorem rel_lookup_of_holdsEntries {found : List (Value × Nat)} {entries : List (Value × Value)}
    (texts : ∀ entry ∈ entries, ∃ name, entry.1 = .text name)
    (held : document.holdsEntries found entries = true) (key : Text) :
    Option.Rel (fun id value => document.holds id value = true)
      (Assoc.find? Value.sameKey found (.text key)) (Value.lookup? entries key) := by
  induction entries generalizing found with
  | nil =>
      rw [eq_nil_of_holdsEntries_nil held]
      exact .none
  | cons entry others ih =>
      obtain ⟨⟨name, named⟩, otherTexts⟩ := List.forall_mem_cons.mp texts
      obtain ⟨present, value⟩ := entry
      obtain rfl : present = .text name := named
      obtain ⟨id, rest, rfl, here, later⟩ := exists_of_holdsEntries_cons held
      have behind := ih otherTexts later
      rw [Value.lookup?, Assoc.find?] at behind ⊢
      rw [Assoc.find?, List.find?_cons, List.find?_cons]
      cases same : Value.sameKey (.text name) (.text key) with
      | true => exact .some here
      | false => exact behind

section

variable {id : Nat} {entries : List (Value × Value)} (texts : ∀ entry ∈ entries, ∃ name, entry.1 = .text name)
  (held : document.holds id (.map entries) = true) {key : Text}

include texts held

theorem rel_lookup?_of_holds (key : Text) :
    Option.Rel (fun id value => document.holds id value = true) (document.lookup? id key)
      (Value.lookup? entries key) := by
  rw [holds] at held
  split at held
  · next found named =>
      rw [lookup?, named]
      exact rel_lookup_of_holdsEntries texts held key
  · cases held

theorem exists_lookup?_of_holds {value : Value} (known : Value.lookup? entries key = some value) :
    ∃ node, document.lookup? id key = some node ∧ document.holds node value = true := by
  have related := rel_lookup?_of_holds texts held key
  rw [known] at related
  generalize document.lookup? id key = found at related
  cases related with
  | some below => exact ⟨_, rfl, below⟩

theorem lookup?_of_holds_eq_none (unknown : Value.lookup? entries key = none) : document.lookup? id key = none := by
  have related := rel_lookup?_of_holds texts held key
  rw [unknown] at related
  generalize document.lookup? id key = found at related
  cases related with
  | none => rfl

end

end Yaml.Document

namespace Catalog

open Yaml (Document)

/-- The names of a catalog with their entries, as a map of values. -/
def pairs (catalog : Catalog) : List (Value × Value) :=
  catalog.map fun definition => (.text definition.name, .list (definition.entries.map .text))

theorem texts_of_mem_pairs {catalog : Catalog} :
    ∀ pair ∈ catalog.pairs, ∃ (name : Text) (items : List Text), pair = (.text name, .list (items.map .text)) :=
  List.forall_mem_map.mpr fun definition _ => ⟨definition.name, definition.entries, rfl⟩

theorem lookup?_pairs (catalog : Catalog) (key : Text) :
    Value.lookup? catalog.pairs key = (catalog.find? (·.name == key)).map fun definition =>
      .list (definition.entries.map .text) := by
  rw [Value.lookup?, Assoc.find?, pairs, List.find?_map, Option.map_map]
  rfl

/-- A map from names to lists of texts is a catalog of their definitions, tidied. -/
theorem ofValue?_pairs (catalog : Catalog) :
    ofValue? (.map catalog.pairs) = .ok (distinct (catalog.map .tidied)) := by
  let mapping : Mapping := catalog.map fun definition => (.text definition.name, .texts definition.entries)
  have value : mapping.value = .map catalog.pairs := congrArg Value.map List.map_map
  have definitions : mapping.definitions = catalog := by
    rw [Mapping.definitions, List.map_map]
    exact List.map_id catalog
  rw [← value, mapping.catalog_ofValue?, definitions]

theorem ofNamed?_pairs {catalog : Catalog} (valid : ∀ definition ∈ catalog, Name.fault? definition.name = none)
    (path : FilePath) : ofNamed? path catalog.pairs = .ok (distinct (catalog.map .tidied)) := by
  have named : badName? catalog.pairs = none :=
    badName?_eq_none_iff.mpr (List.forall_mem_map.mpr valid)
  rw [ofNamed?, named]
  simp only [ofValue?_pairs]

section

variable {document : Document} {catalog : Catalog} {id : Nat}

theorem exists_of_holds_pairs (held : document.holds id (.map catalog.pairs) = true) :
    ∃ found, document.cell id = .map found ∧
      (found.map fun (key, node) => (key, document.opened node)) = catalog.pairs := by
  rw [Document.holds] at held
  split at held
  · next found named => exact ⟨found, named, Document.map_opened_of_holdsEntries texts_of_mem_pairs held⟩
  · cases held

theorem exists_of_holds_list {items : List Value} (held : document.holds id (.list items) = true) :
    ∃ ids, document.cell id = .list ids := by
  rw [Document.holds] at held
  split at held
  · next ids listed => exact ⟨ids, listed⟩
  · cases held

theorem keys_of_mem_pairs : ∀ pair ∈ catalog.pairs, ∃ name, pair.1 = .text name :=
  List.forall_mem_map.mpr fun definition _ => ⟨definition.name, rfl⟩

end

section

variable {document : Document} {catalog : Catalog} (path : FilePath)

theorem ofDocument?_of_lookup? {node : Nat} (found : document.lookup? document.root "wildcards".toList = some node) :
    ofDocument? path document =
      match document.cell node with
      | .map entries => ofNamed? path (entries.map fun (key, held) => (key, document.opened held))
      | _ => .error (.noMapping path) := by
  rw [ofDocument?, found, Option.getD_some]
  split
  · next blank =>
      rw [Document.lookup?, blank] at found
      cases found
  · rfl

/-- The map under the key is taken, whatever its names are. -/
theorem ofDocument?_of_wrapped
    (held : document.holds document.root (.map [(.text "wildcards".toList, .map catalog.pairs)]) = true) :
    ofDocument? path document = ofNamed? path catalog.pairs := by
  let whole : List (Value × Value) := [(.text "wildcards".toList, .map catalog.pairs)]
  have text : ∀ entry ∈ whole, ∃ name, entry.1 = .text name := List.forall_mem_singleton.mpr ⟨_, rfl⟩
  have known : Value.lookup? whole "wildcards".toList = some (.map catalog.pairs) := rfl
  obtain ⟨node, found, below⟩ := Document.exists_lookup?_of_holds text held known
  obtain ⟨entries, named, opened⟩ := exists_of_holds_pairs below
  rw [ofDocument?_of_lookup? path found, named]
  simp only [opened]

/-- If the key is among the names of a map that a document holds itself, the entries of this name are taken for the
map. -/
theorem ofDocument?_of_taken (held : document.holds document.root (.map catalog.pairs) = true)
    (taken : "wildcards".toList ∈ catalog.map (·.name)) : ofDocument? path document = .error (.noMapping path) := by
  obtain ⟨definition, first⟩ : ∃ definition, catalog.find? (·.name == "wildcards".toList) = some definition := by
    obtain ⟨definition, member, same⟩ := List.mem_map.mp taken
    exact Option.isSome_iff_exists.mp (List.find?_isSome.mpr ⟨definition, member, beq_iff_eq.mpr same⟩)
  have known : Value.lookup? catalog.pairs "wildcards".toList = some (.list (definition.entries.map .text)) := by
    rw [lookup?_pairs, first]
    rfl
  obtain ⟨node, found, below⟩ := Document.exists_lookup?_of_holds keys_of_mem_pairs held known
  obtain ⟨ids, listed⟩ := exists_of_holds_list below
  rw [ofDocument?_of_lookup? path found, listed]

/-- A map that a document holds itself is taken if the key is none of its names. -/
theorem ofDocument?_of_free (held : document.holds document.root (.map catalog.pairs) = true)
    (free : "wildcards".toList ∉ catalog.map (·.name)) : ofDocument? path document = ofNamed? path catalog.pairs := by
  have unknown : Value.lookup? catalog.pairs "wildcards".toList = none := by
    rw [lookup?_pairs, Option.map_eq_none_iff, List.find?_eq_none]
    exact fun definition member same => free (List.mem_map.mpr ⟨definition, member, beq_iff_eq.mp same⟩)
  have absent := Document.lookup?_of_holds_eq_none keys_of_mem_pairs held unknown
  obtain ⟨entries, named, opened⟩ := exists_of_holds_pairs held
  rw [ofDocument?, named]
  simp only [absent, Option.getD_none, named, opened]

end

/-- From a file that holds a value the catalog in a document of the value is loaded, and nothing is noted. -/
theorem exists_load_of_holdsValue {tree : FileTree} {path : Text} {value : Value} {read : Yaml.Reader}
    (held : tree.HoldsValue (.ofText path) value read) :
    ∃ document : Document, document.holds document.root value = true ∧
      load tree path read = { result := ofDocument? (.ofText path) document } := by
  have ⟨document, known, holds⟩ := held
  refine ⟨document, holds, ?_⟩
  rw [load]
  split
  · next directory found => exact absurd found held.entry_ne_directory
  · rw [known]
    rfl

end Catalog

end PromptTemplate
