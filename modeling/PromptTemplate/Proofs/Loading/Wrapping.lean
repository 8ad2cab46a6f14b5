import PromptTemplate.Proofs.Loading.Documents

set_option autoImplicit false

namespace PromptTemplate.Catalog

/-- A map from valid names to lists of texts describes a catalog. This is what is loaded from any file that holds the
map under the key `wildcards`, and from any file that holds the map itself, as long as the key is none of the names;
otherwise the entries of that name are taken for the map, and the file is refused. This is so for any reader of
documents. -/
theorem flat_file_agrees_unless_key_is_name {catalog : Catalog}
    (valid : ∀ definition ∈ catalog, (Name.validate definition.name).isValid = true) :
    ∃ described, ofValue? (.map catalog.pairs) = .ok described ∧
      ∀ (read : Yaml.Reader) (tree : FileTree) (path : Text),
      (tree.HoldsValue (.ofText path) (.map [(.text "wildcards".toList, .map catalog.pairs)]) read →
        load tree path read = { events := [], result := .ok described }) ∧
      (tree.HoldsValue (.ofText path) (.map catalog.pairs) read →
        load tree path read =
          { events := []
            result :=
              if "wildcards".toList ∈ catalog.map (·.name) then .error (.noMapping (.ofText path))
              else .ok described }) := by
  have named := ofNamed?_pairs fun definition member => Name.isValid_validate_iff.mp (valid definition member)
  refine ⟨_, ofValue?_pairs catalog, fun read tree path => ⟨fun held => ?_, fun held => ?_⟩⟩
  · obtain ⟨document, holds, loaded⟩ := exists_load_of_holdsValue held
    rw [loaded, ofDocument?_of_wrapped _ holds, named]
  · obtain ⟨document, holds, loaded⟩ := exists_load_of_holdsValue held
    rw [loaded]
    split
    · next taken => rw [ofDocument?_of_taken _ holds taken]
    · next free => rw [ofDocument?_of_free _ holds free, named]

/-- Names that look like a number or a truth value and entries with blanks come through both forms. -/
theorem flat_file_agrees_with_odd_names :
    let catalog : Catalog := [⟨"7".toList, [" a: b".toList, [], "~".toList]⟩, ⟨"true".toList, []⟩]
    let wrapped := Value.map [(.text "wildcards".toList, .map catalog.pairs)]
    let content (value : Value) := (String.ofList (Yaml.print value)).toUTF8
    let tree : FileTree :=
      { files := [(.ofText "flat.yml".toList, content (.map catalog.pairs)),
          (.ofText "w.yml".toList, content wrapped)] }
    let loaded : Loaded :=
      { result := .ok [⟨"7".toList, ["a: b".toList, "~".toList]⟩, ⟨"true".toList, []⟩] }
    load tree "flat.yml".toList = loaded ∧ load tree "w.yml".toList = loaded := by
  intro catalog wrapped content tree loaded
  have valid : ∀ definition ∈ catalog, (Name.validate definition.name).isValid = true := by decide
  have flat : tree.HoldsText (.ofText "flat.yml".toList) (Yaml.print (.map catalog.pairs)) := rfl
  have inside : tree.HoldsText (.ofText "w.yml".toList) (Yaml.print wrapped) := rfl
  obtain ⟨described, made, both⟩ := flat_file_agrees_unless_key_is_name valid
  obtain rfl : described = _ := Except.ok.inj (made.symm.trans (ofValue?_pairs catalog))
  have free : "wildcards".toList ∉ catalog.map (·.name) := by decide
  constructor
  · have held : tree.HoldsValue (.ofText "flat.yml".toList) (.map catalog.pairs) :=
      flat.holdsValue (by decide +kernel) (by decide +kernel)
    rw [(both Yaml.read tree _).2 held, if_neg free]
    rfl
  · have held : tree.HoldsValue (.ofText "w.yml".toList) wrapped :=
      inside.holdsValue (by decide +kernel) (by decide +kernel)
    rw [(both Yaml.read tree _).1 held]
    rfl

/-- A map whose only name is the key describes a catalog, and a file that holds it is refused. -/
theorem flat_file_with_key_as_name_refused :
    let catalog : Catalog := [⟨"wildcards".toList, ["x".toList]⟩]
    let path := "w.yml".toList
    let tree : FileTree :=
      { files := [(.ofText path, (String.ofList (Yaml.print (.map catalog.pairs))).toUTF8)] }
    (∀ definition ∈ catalog, (Name.validate definition.name).isValid = true) ∧
      tree.HoldsValue (.ofText path) (.map catalog.pairs) ∧ ofValue? (.map catalog.pairs) = .ok catalog ∧
      (load tree path).result ≠ .ok catalog ∧
      (load tree path).result = .error (.noMapping (.ofText path)) := by
  intro catalog path tree
  have text : tree.HoldsText (.ofText path) (Yaml.print (.map catalog.pairs)) := rfl
  have held : tree.HoldsValue (.ofText path) (.map catalog.pairs) :=
    text.holdsValue (by decide +kernel) (by decide +kernel)
  have refused : (load tree path).result = .error (.noMapping (.ofText path)) := by
    obtain ⟨document, holds, loaded⟩ := exists_load_of_holdsValue held
    rw [loaded]
    exact ofDocument?_of_taken _ holds (by decide)
  refine ⟨by decide, held, ?_, ?_, refused⟩
  · rw [ofValue?_pairs]
    rfl
  · rw [refused]
    simp

end PromptTemplate.Catalog
