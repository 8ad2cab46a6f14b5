import PromptTemplate.Host

set_option autoImplicit false

namespace PromptTemplate

/-- The faults of a YAML text that are no complaints about its form. -/
def Yaml.Fault.wordless : List Yaml.Fault :=
  [.noSuchValue, .noDigits, .noTruth, .noMoment, .noSpelling, .overflow, .tooDeep]

theorem Yaml.Fault.message?_eq_none_iff (file : String) (fault : Yaml.Fault) :
    fault.message? file = none ↔ fault ∈ wordless := by
  cases fault <;> simp [message?, wordless]

theorem FileTree.Fault.message?_eq_none_iff (path : FilePath) (fault : FileTree.Fault) :
    fault.message? path = none ↔ fault = .nullCharacter := by
  cases fault <;> simp [message?]

theorem Price.Fault.message?_eq_none_iff (fault : Price.Fault) : fault.message? = none ↔ fault = .beyondFloat := by
  cases fault <;> simp [message?]

theorem Settings.Fault.message?_eq_none_iff (fault : Settings.Fault) :
    fault.message? = none ↔ fault = .price .beyondFloat := by
  cases fault <;> simp [message?, Price.Fault.message?_eq_none_iff]

theorem Catalog.Fault.message?_eq_none_iff (fault : Catalog.Fault) :
    fault.message? = none ↔ fault = .notIterable := by
  cases fault <;> simp [message?]

/-- A fault that is met in loading and that there are no words for: a text that cannot be decoded, a path with a null
character, a YAML scalar that stands for no value, or a price of the settings beyond the largest float. -/
inductive LoadFault.IsWordless : LoadFault → Prop
  | undecodable : IsWordless .undecodable
  | path (path : FilePath) : IsWordless (.file path .nullCharacter)
  | scalar (path : FilePath) {fault : Yaml.Fault} (wordless : fault ∈ Yaml.Fault.wordless) :
      IsWordless (.yaml path fault)
  | price : IsWordless (.settings (.price .beyondFloat))

theorem LoadFault.message?_eq_none_iff {fault : LoadFault} (iterable : fault ≠ .catalog .notIterable) :
    fault.message? = none ↔ fault.IsWordless := by
  constructor
  · intro unsaid
    cases fault with
    | file path fault =>
        rw [message?, FileTree.Fault.message?_eq_none_iff] at unsaid
        rw [unsaid]
        exact .path path
    | undecodable => exact .undecodable
    | yaml path fault => exact .scalar path ((Yaml.Fault.message?_eq_none_iff _ fault).mp unsaid)
    | settings fault =>
        rw [message?, Settings.Fault.message?_eq_none_iff] at unsaid
        rw [unsaid]
        exact .price
    | catalog fault =>
        rw [message?, Catalog.Fault.message?_eq_none_iff] at unsaid
        rw [unsaid] at iterable
        exact absurd rfl iterable
    | noMapping path => cases unsaid
    | badName path name fault => cases unsaid
  · intro wordless
    cases wordless with
    | undecodable => rfl
    | path path => rfl
    | scalar path wordless => exact (Yaml.Fault.message?_eq_none_iff _ _).mpr wordless
    | price => rfl

/-- What is done with a result does not fail by itself. -/
theorem map_ne_error {ε α β : Type} {made : Except ε α} {fault : ε} (proper : made ≠ .error fault)
    (next : α → β) : made.map next ≠ .error fault := by
  cases made with
  | error other => simpa [Except.map] using proper
  | ok result => simp [Except.map]

theorem bind_ne_error {ε α β : Type} {made : Except ε α} {fault : ε} {next : α → Except ε β}
    (proper : made ≠ .error fault) (later : ∀ result, next result ≠ .error fault) :
    (made >>= next) ≠ .error fault := by
  cases made with
  | error other => simpa [bind, Except.bind] using proper
  | ok result => exact later result

theorem mapError_ne_error {ε φ α : Type} {made : Except ε α} {wrap : ε → φ} {fault : φ}
    (proper : ∀ cause, made = .error cause → wrap cause ≠ fault) : made.mapError wrap ≠ .error fault := by
  cases made with
  | error cause => exact fun same => proper cause rfl (Except.error.inj same)
  | ok result =>
      intro same
      cases same

theorem forM_written_ne_fault {φ : Type} (room : Nat) (values : List Value) (fault : φ) :
    values.forM (written room) ≠ .error (.fault fault) := by
  induction values with
  | nil => nofun
  | cons value values ih =>
      refine bind_ne_error ?_ fun _ => ih
      rw [written]
      split <;> simp

namespace Catalog

theorem definition?_ne_notIterable (name : Text) (value : Value) :
    definition? name value ≠ .error .notIterable := by
  unfold definition?
  split
  · simp
  · simp
  · split <;> simp

theorem loadFiles_ne_notIterable (tree : FileTree) (directory : FilePath) (fileNames : List Text) :
    (loadFiles tree directory fileNames).result ≠ .error (.catalog .notIterable) := by
  induction fileNames with
  | nil => simp [loadFiles]
  | cons fileName rest ih =>
      rw [loadFiles]
      split
      · exact ih
      · simp only
        split
        · simp
        · simp
        · exact map_ne_error ih _

/-- A map is gone through by its keys. -/
theorem read_map_ne_notIterable (room : Nat) (pairs : List (Value × Value)) :
    read room (.map pairs) ≠ .error (.fault .notIterable) := by
  refine bind_ne_error ?_ nofun
  induction pairs with
  | nil => nofun
  | cons pair rest ih =>
      refine bind_ne_error (bind_ne_error ?_ fun _ => bind_ne_error ?_ fun _ => bind_ne_error ?_ nofun) fun _ =>
        bind_ne_error ih nofun
      · rw [written]
        split <;> simp
      · refine mapError_ne_error fun fault made => ?_
        have proper := definition?_ne_notIterable pair.1.plain pair.2
        rw [made] at proper
        split
        · simp
        · simpa using proper
      · exact forM_written_ne_fault _ _ _

end Catalog

namespace Host

variable (host : Host) (path : Text)

theorem document_ne_catalog (path : FilePath) (fault : Catalog.Fault) :
    host.document path ≠ .error (.catalog fault) := by
  rw [document]
  split
  · simp
  · simp
  · split <;> simp

theorem settings_ne_catalog (fault : Catalog.Fault) : host.settings path ≠ .error (.fault (.catalog fault)) := by
  refine bind_ne_error (mapError_ne_error ?_) fun document => mapError_ne_error ?_
  · rintro cause failed ⟨⟩
    exact host.document_ne_catalog _ fault failed
  · rintro (cause | value) _ ⟨⟩

theorem checkNames_ne_catalog (path : FilePath) (fault : Catalog.Fault) (pairs : List (Value × Value)) :
    host.checkNames path pairs ≠ .error (.fault (.catalog fault)) := by
  induction pairs with
  | nil => nofun
  | cons pair rest ih =>
      refine bind_ne_error ?_ fun _ => ?_
      · rw [written]
        split <;> simp
      · split
        · nofun
        · exact ih

theorem catalog_ne_notIterable : (host.catalog path).result ≠ .error (.fault (.catalog .notIterable)) := by
  rw [catalog]
  simp only
  split
  · refine mapError_ne_error ?_
    rintro cause failed ⟨⟩
    exact map_ne_error (Catalog.loadFiles_ne_notIterable _ _ _) _ failed
  · refine bind_ne_error (mapError_ne_error ?_) fun document => ?_
    · rintro cause failed ⟨⟩
      exact host.document_ne_catalog _ _ failed
    · rw [catalogIn]
      split
      · nofun
      · simp only
        split
        · refine bind_ne_error (checkNames_ne_catalog _ _ _ _) fun _ => mapError_ne_error ?_
          rintro (cause | value) failed ⟨⟩
          exact Catalog.read_map_ne_notIterable _ _ failed
        · nofun

end Host

end PromptTemplate
