import PromptTemplate.Loading

set_option autoImplicit false

namespace PromptTemplate

theorem exists_of_map_eq_ok {ε α β : Type} {made : Except ε α} {next : α → β} {result : β}
    (done : made.map next = .ok result) : ∃ first, made = .ok first ∧ next first = result := by
  cases made with
  | error fault => cases done
  | ok first => exact ⟨first, rfl, Except.ok.inj done⟩

namespace Catalog

theorem mem_of_mem_distinctAfter {seen : List Text} {catalog : Catalog} {definition : Definition}
    (member : definition ∈ distinctAfter seen catalog) : definition ∈ catalog := by
  induction catalog generalizing seen with
  | nil => cases member
  | cons first rest ih =>
      rw [distinctAfter] at member
      split at member
      · exact List.mem_cons_of_mem first (ih member)
      · rcases List.mem_cons.mp member with rfl | later
        · exact List.mem_cons_self
        · exact List.mem_cons_of_mem first (ih later)

theorem name_of_definition? {name : Text} {value : Value} {definition : Definition}
    (made : definition? name value = .ok definition) : definition.name = name := by
  unfold definition? at made
  split at made
  · cases made
    rfl
  · cases made
    rfl
  · split at made
    · cases made
      rfl
    · cases made

theorem exists_pair_of_ofPairs? {pairs : List (Value × Value)} {catalog : Catalog}
    (made : ofPairs? pairs = .ok catalog) :
    ∀ definition ∈ catalog, ∃ pair ∈ pairs, definition? pair.1.plain pair.2 = .ok definition := by
  induction pairs generalizing catalog with
  | nil =>
      cases made
      exact List.forall_mem_nil _
  | cons pair rest ih =>
      rw [ofPairs?] at made
      cases first : definition? pair.1.plain pair.2 with
      | error fault =>
          rw [first] at made
          cases made
      | ok definition =>
          rw [first] at made
          obtain ⟨others, listed, rfl⟩ := exists_of_map_eq_ok made
          rw [List.forall_mem_cons]
          refine ⟨⟨pair, List.mem_cons_self, first⟩, fun other member => ?_⟩
          obtain ⟨later, among, read⟩ := ih listed other member
          exact ⟨later, List.mem_cons_of_mem pair among, read⟩

theorem exists_pair_of_map {pairs : List (Value × Value)} {catalog : Catalog}
    (made : ofValue? (.map pairs) = .ok catalog) :
    ∀ definition ∈ catalog, ∃ pair ∈ pairs, definition? pair.1.plain pair.2 = .ok definition := by
  obtain ⟨definitions, listed, rfl⟩ := exists_of_map_eq_ok made
  exact fun definition member => exists_pair_of_ofPairs? listed definition (mem_of_mem_distinctAfter member)

theorem badName?_eq_none_iff {pairs : List (Value × Value)} :
    badName? pairs = none ↔ ∀ pair ∈ pairs, Name.fault? pair.1.plain = none := by
  induction pairs with
  | nil => simp [badName?]
  | cons pair rest ih =>
      rw [badName?, List.forall_mem_cons]
      cases Name.fault? pair.1.plain with
      | some fault => simp
      | none => simp [ih]

/-- A definition that was read for a name that passes its check. -/
def IsChecked (definition : Definition) : Prop :=
  Name.fault? definition.name = none ∧ ∃ value, definition? definition.name value = .ok definition

theorem isChecked_of_definition? {name : Text} {value : Value} {definition : Definition}
    (valid : Name.fault? name = none) (made : definition? name value = .ok definition) : IsChecked definition := by
  obtain rfl := name_of_definition? made
  exact ⟨valid, value, made⟩

theorem isChecked_of_ofDocument? {path : FilePath} {document : Yaml.Document} {catalog : Catalog}
    (made : ofDocument? path document = .ok catalog) : ∀ definition ∈ catalog, IsChecked definition := by
  rw [ofDocument?] at made
  split at made
  · cases made
    exact List.forall_mem_nil _
  · simp only at made
    split at made
    · rw [ofNamed?] at made
      split at made
      · cases made
      · next valid =>
          split at made
          · cases made
          · next described =>
              cases made
              intro definition member
              obtain ⟨pair, among, read⟩ := exists_pair_of_map described definition member
              exact isChecked_of_definition? (badName?_eq_none_iff.mp valid pair among) read
    · cases made

theorem isChecked_of_loadFiles {tree : FileTree} {directory : FilePath} {fileNames : List Text} {catalog : Catalog}
    (made : (loadFiles tree directory fileNames).result = .ok catalog) :
    ∀ definition ∈ catalog, IsChecked definition := by
  induction fileNames generalizing catalog with
  | nil =>
      cases made
      exact List.forall_mem_nil _
  | cons fileName rest ih =>
      rw [loadFiles] at made
      split at made
      · exact ih made
      · next valid =>
          simp only at made
          split at made
          · cases made
          · cases made
          · next content _ =>
              obtain ⟨others, found, rfl⟩ := exists_of_map_eq_ok made
              have read : definition? (stem fileName) (.text content) = .ok (.ofContent (stem fileName) content) := rfl
              exact List.forall_mem_cons.mpr ⟨isChecked_of_definition? valid read, ih found⟩

theorem isChecked_of_load {tree : FileTree} {path : Text} {read : Yaml.Reader} {catalog : Catalog}
    (made : (load tree path read).result = .ok catalog) : ∀ definition ∈ catalog, IsChecked definition := by
  rw [load] at made
  simp only at made
  split at made
  · obtain ⟨definitions, listed, rfl⟩ := exists_of_map_eq_ok made
    exact fun definition member => isChecked_of_loadFiles listed definition (mem_of_mem_distinctAfter member)
  · cases found : tree.readDocument (FilePath.ofText path) read with
    | error fault =>
        rw [found] at made
        cases made
    | ok document =>
        rw [found] at made
        exact isChecked_of_ofDocument? made

end Catalog

end PromptTemplate
