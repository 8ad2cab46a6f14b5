import PromptTemplate.Host
import PromptTemplate.Proofs.Value.Writing

set_option autoImplicit false

namespace PromptTemplate

namespace Catalog

variable {room : Nat}

theorem follows_readDefinition (key value : Value) :
    Follows room (readDefinition room key value) (definition? key.plain value) := by
  apply follows_after_written
  have entered : Follows room
      (stated room Fault.shown (definition? key.plain value) >>= fun definition =>
        (value.items?.getD []).forM (written room) >>= fun _ => .ok definition)
      (definition? key.plain value >>= fun definition => .ok () >>= fun _ => .ok definition) :=
    (follows_stated Fault.shown _).bind fun _ => (follows_forM_written _).bind fun _ => Or.inl rfl
  have kept : (definition? key.plain value >>= fun definition => .ok () >>= fun _ => .ok definition) =
      definition? key.plain value := bind_pure _
  rwa [kept] at entered

theorem follows_readPairs (pairs : List (Value × Value)) : Follows room (readPairs room pairs) (ofPairs? pairs) := by
  induction pairs with
  | nil => exact Or.inl rfl
  | cons entry rest ih =>
      obtain ⟨key, value⟩ := entry
      have entered : Follows room
          (readDefinition room key value >>= fun definition => (readPairs room rest).map (definition :: ·))
          (definition? key.plain value >>= fun definition => (ofPairs? rest).map (definition :: ·)) :=
        (follows_readDefinition key value).bind fun definition => ih.map (definition :: ·)
      have plain : ofPairs? ((key, value) :: rest) =
          definition? key.plain value >>= fun definition => (ofPairs? rest).map (definition :: ·) := by
        rw [ofPairs?]
        cases definition? key.plain value <;> rfl
      rw [plain, readPairs]
      exact entered

/-- The catalog that is read is the one that the value describes, unless a value cannot be written. -/
theorem follows_read (value : Value) : Follows room (read room value) (ofValue? value) := by
  cases value with
  | map pairs => exact (follows_readPairs pairs).map distinct
  | _ => exact follows_stated Fault.shown _

end Catalog

namespace Host

variable (host : Host)

theorem follows_checkNames (path : FilePath) (pairs : List (Value × Value)) :
    Follows host.room (host.checkNames path pairs)
      (match Catalog.badName? pairs with
        | some (name, fault) => .error (.badName path name fault)
        | none => .ok ()) := by
  induction pairs with
  | nil => exact Or.inl rfl
  | cons entry rest ih =>
      obtain ⟨key, value⟩ := entry
      rw [checkNames, Catalog.badName?]
      apply follows_after_written
      cases Name.fault? key.plain with
      | some fault => exact Or.inl rfl
      | none => exact ih

theorem follows_named (path : FilePath) (pairs : List (Value × Value)) :
    Follows host.room
      (host.checkNames path pairs >>= fun _ => (Catalog.read host.room (.map pairs)).mapError (.map .catalog))
      (Catalog.ofNamed? path pairs) := by
  have named := (follows_checkNames host path pairs).bind fun _ =>
    (Catalog.follows_read (.map pairs)).mapError LoadFault.catalog
  have plain : ((match Catalog.badName? pairs with
      | some (name, fault) => .error (.badName path name fault)
      | none => .ok () : Except LoadFault Unit) >>= fun _ =>
        (Catalog.ofValue? (.map pairs)).mapError LoadFault.catalog) = Catalog.ofNamed? path pairs := by
    rw [Catalog.ofNamed?]
    cases Catalog.badName? pairs with
    | some bad => rfl
    | none => cases Catalog.ofValue? (.map pairs) <;> rfl
  rwa [plain] at named

theorem follows_catalogIn (path : FilePath) (document : Yaml.Document) :
    Follows host.room (host.catalogIn path document) (Catalog.ofDocument? path document) := by
  by_cases empty : document.cell document.root = .plain .null
  · simp only [catalogIn, Catalog.ofDocument?, empty]
    exact Or.inl rfl
  · -- The test for nothing is decided by `empty`, which is found among the hypotheses.
    simp only [catalogIn, Catalog.ofDocument?]
    cases document.cell ((document.lookup? document.root "wildcards".toList).getD document.root) with
    | map entries => exact host.follows_named path _
    | _ => exact Or.inl rfl

theorem document_of_decoded {read : Yaml.Reader} (decoded : host.read = readDecoded read) (path : FilePath) :
    host.document path = host.tree.readDocument path read := by
  rw [document, FileTree.readDocument, FileTree.readText, decoded]
  cases host.tree.entry path with
  | fault fault => rfl
  | directory directory => rfl
  | file content =>
      simp only [readDecoded]
      cases FileTree.decode? content with
      | none => rfl
      | some text => simp only; cases read text <;> rfl

/-- Where the bytes of a file are decoded before the document in them is read, the catalog that a run loads is the one
at the path, unless a value cannot be written. -/
theorem follows_catalog {read : Yaml.Reader} (decoded : host.read = readDecoded read) (path : Text) :
    Follows host.room (host.catalog path).result (Catalog.load host.tree path read).result ∧
      (host.catalog path).events = (Catalog.load host.tree path read).events := by
  have opened : Follows host.room ((host.document (.ofText path)).mapError .fault >>= host.catalogIn (.ofText path))
      (host.tree.readDocument (.ofText path) read >>= Catalog.ofDocument? (.ofText path)) := by
    rw [host.document_of_decoded decoded]
    exact Follows.bind (Or.inl rfl) fun document => host.follows_catalogIn _ document
  rw [catalog, Catalog.load]
  cases host.tree.entry (.ofText path) with
  | directory directory => exact ⟨Or.inl rfl, rfl⟩
  | _ => exact ⟨opened, rfl⟩

end Host

end PromptTemplate
