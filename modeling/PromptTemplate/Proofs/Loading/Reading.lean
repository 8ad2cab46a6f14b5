import PromptTemplate.Loading
import PromptTemplate.Proofs.Yaml.LineEnds
import PromptTemplate.Proofs.Yaml.Unfolding

set_option autoImplicit false

namespace PromptTemplate.FileTree

open Yaml (Document)

/-- A file that holds a text in UTF-8, with its line ends as they are. -/
def HoldsText (tree : FileTree) (path : FilePath) (text : Text) : Prop :=
  tree.entry path = .file (String.ofList text).toUTF8

/-- A file with a YAML document of a value that is put together of texts, lists and maps with text keys, which keep
their order. -/
def HoldsValue (tree : FileTree) (path : FilePath) (value : Value) (read : Yaml.Reader := Yaml.read) : Prop :=
  ∃ document, tree.readDocument path read = .ok document ∧ document.holds document.root value = true

theorem decode?_toUTF8 (text : Text) :
    decode? (String.ofList text).toUTF8 = some (Text.normaliseBreaks text) := by
  have decoded : String.fromUTF8? (String.ofList text).toUTF8 = some (String.ofList text) := by
    rw [String.fromUTF8?, String.toUTF8_eq_toByteArray, dif_pos (String.ofList text).isValidUTF8]
    rfl
  rw [decode?, decoded, Option.map_some, String.toList_ofList]

namespace HoldsText

variable {tree : FileTree} {path : FilePath} {text : Text} (held : tree.HoldsText path text)

include held

theorem readText : tree.readText path = .ok (Text.normaliseBreaks text) := by
  rw [HoldsText] at held
  rw [FileTree.readText, held]
  simp only [decode?_toUTF8]

theorem readDocument {read : Yaml.Reader} {document : Document}
    (known : read (Text.normaliseBreaks text) = .ok document) : tree.readDocument path read = .ok document := by
  rw [FileTree.readDocument, held.readText]
  simp only [known]

end HoldsText

theorem HoldsText.holdsValue {tree : FileTree} {path : FilePath} {value : Value} {read : Yaml.Reader}
    {print : Value → Text} (held : tree.HoldsText path (print value)) (unbroken : '\r' ∉ print value)
    (restored : Yaml.restores value read print = true) : tree.HoldsValue path value read := by
  rw [Yaml.restores] at restored
  split at restored
  · next document known =>
      rw [← Text.normaliseBreaks_of_not_mem unbroken] at known
      exact ⟨document, held.readDocument known, restored⟩
  · cases restored

theorem HoldsValue.entry_ne_directory {tree : FileTree} {path directory : FilePath} {value : Value}
    {read : Yaml.Reader} (held : tree.HoldsValue path value read) : tree.entry path ≠ .directory directory := by
  intro found
  obtain ⟨document, known, _⟩ := held
  rw [readDocument, readText, found] at known
  cases known

end PromptTemplate.FileTree
