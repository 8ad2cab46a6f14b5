import PromptTemplate.Proofs.Store.InPlace

set_option autoImplicit false

namespace PromptTemplate.Store

/-- A name that a user's item cannot get: an invalid one, or that of an item of the user other than the item with
the id `except`. -/
def IsBarred (store : Store) (user name : Text) (except : Option Text) : Prop :=
  (Name.validate name).isValid = false ∨
    ∃ item ∈ store.items, item.user = user ∧ item.name = name ∧ some item.id ≠ except

def Fails (store : Store) : Operation → Prop
  | .save user name _ _ => store.IsBarred user name none
  | .update id changes =>
    (∀ item ∈ store.items, item.id ≠ id) ∨
      (∃ change ∈ changes, change.1 ∉ mutableFields) ∨
      ∃ item ∈ store.items, item.id = id ∧ ∃ name,
        (Assoc.ofList changes).get? "name".toList = some name ∧ store.IsBarred item.user name (some id)
  | .delete id => ∀ item ∈ store.items, item.id ≠ id
  | .get _ | .definitions _ | .exportYaml _ | .expand _ _ _ => False

theorem isBarred_iff {store : Store} {user name : Text} {except : Option Text} :
    store.IsBarred user name except ↔ store.nameFault? user name except ≠ none := by
  have invalid : (Name.validate name).isValid = false ↔ Name.fault? name ≠ none := by
    rw [← Bool.not_eq_true, Name.isValid_validate_iff]
  rw [Ne, nameFault?_eq_none_iff, not_and_or, IsBarred, invalid]
  push Not
  rfl

theorem unknownFields_eq_nil_iff {changes : List (Text × Text)} :
    unknownFields (.ofList changes) = [] ↔ ∀ change ∈ changes, change.1 ∈ mutableFields := by
  rw [unknownFields, ← List.length_eq_zero_iff, List.length_mergeSort, List.length_eq_zero_iff,
    List.filter_eq_nil_iff]
  simp only [Assoc.mem_keys_ofList, List.forall_mem_map, Bool.not_eq_true', Bool.not_eq_false,
    List.contains_iff_mem]

/-- An item cannot be changed as asked if a field is unknown or its new name is barred. -/
theorem changeFault?_ne_none_iff {store : Store} {item : StoredWildcard} {changes : List (Text × Text)} :
    store.changeFault? item (.ofList changes) ≠ none ↔
      (∃ change ∈ changes, change.1 ∉ mutableFields) ∨
        ∃ name, (Assoc.ofList changes).get? "name".toList = some name ∧
          store.IsBarred item.user name (some item.id) := by
  have unknown : unknownFields (.ofList changes) ≠ [] ↔ ∃ change ∈ changes, change.1 ∉ mutableFields := by
    rw [Ne, unknownFields_eq_nil_iff]
    push Not
    rfl
  rw [← unknown, changeFault?]
  cases unknownFields (.ofList changes) with
  | cons field fields => simp
  | nil =>
      simp only [ne_eq, not_true_eq_false, false_or]
      cases Assoc.get? (.ofList changes) "name".toList with
      | none => simp
      | some name => simpa using isBarred_iff.symm

variable {store : Store}

theorem IsSound.isFailure_perform_iff (sound : store.IsSound) (operation : Operation) :
    (store.perform operation).1.isFailure = true ↔ store.Fails operation := by
  cases operation with
  | save user name content category =>
      rw [perform_save, Fails, isBarred_iff]
      cases store.nameFault? user name none <;> simp [Answer.isFailure]
  | update id changes =>
      rw [perform_update, Fails]
      cases found : store.get? id with
      | none => exact iff_of_true rfl (.inl (get?_eq_none_iff.mp found))
      | some item =>
          obtain ⟨member, rfl⟩ := mem_of_get? found
          have only : (∃ other ∈ store.items, other.id = item.id ∧ ∃ name,
              (Assoc.ofList changes).get? "name".toList = some name ∧
                store.IsBarred other.user name (some item.id)) ↔
              ∃ name, (Assoc.ofList changes).get? "name".toList = some name ∧
                store.IsBarred item.user name (some item.id) := by
            constructor
            · rintro ⟨other, among, same, barred⟩
              rwa [sound.eq_of_id among member same] at barred
            · exact fun barred => ⟨item, member, rfl, barred⟩
          have present : ¬ ∀ other ∈ store.items, other.id ≠ item.id := fun absent => absent item member rfl
          rw [only, or_iff_right present, ← changeFault?_ne_none_iff]
          cases fault : store.changeFault? item (.ofList changes) <;> simp [fault, Answer.isFailure]
  | delete id =>
      rw [perform_delete, Fails, ← get?_eq_none_iff]
      cases store.get? id <;> simp [Answer.isFailure]
  | get id => exact iff_of_false Bool.false_ne_true not_false
  | definitions user => exact iff_of_false Bool.false_ne_true not_false
  | exportYaml user => exact iff_of_false Bool.false_ne_true not_false
  | expand settings user prompt => exact iff_of_false Bool.false_ne_true not_false

theorem Effect.unchanged_of_failure {operation : Operation} {answer : Answer} {next : Store}
    (effect : Effect store operation answer next) (failed : answer.isFailure = true) : next = store := by
  cases effect with
  | idle unsaved => rfl
  | _ => cases failed

/-- A run without the operations that fail has the records of all others. -/
theorem history_of_kept (store : Store) (operations : List Operation) :
    let kept := (store.history operations).filter (!·.answer.isFailure)
    store.history (kept.map (·.operation)) = kept ∧
      store.final (kept.map (·.operation)) = store.final operations := by
  induction operations generalizing store with
  | nil => exact ⟨rfl, rfl⟩
  | cons operation rest ih =>
      obtain ⟨records, last⟩ := ih (store.perform operation).2
      simp only [history_cons, final_cons]
      cases failed : (store.perform operation).1.isFailure with
      | true =>
          -- The rest of the run starts from the same store, with this operation or without it.
          have unchanged := (perform_effect store operation).unchanged_of_failure failed
          rw [List.filter_cons_of_neg (by simp [failed])]
          rw [unchanged] at records last ⊢
          exact ⟨records, last⟩
      | false =>
          rw [List.filter_cons_of_pos (by simp [failed]), List.map_cons, history_cons, records, final_cons, last]
          exact ⟨rfl, rfl⟩

/-- In a store behind any run, the operations that fail are those that their conditions say; done step by step they
leave the items, their order and the next number as they were. A run without its failing operations has the
answers of all others, each with the same stores in front of it and behind it, and ends with the same store. -/
theorem failures_invisible (operations : List Operation) :
    let store := final {} operations
    (∀ operation,
      ((store.perform operation).1.isFailure = true ↔ store.Fails operation) ∧
      (Action.ofOperation operation).answer store = store.perform operation ∧
      (store.Fails operation → ((Action.ofOperation operation).answer store).2 = store)) ∧
    Action.history {} operations = history {} operations ∧
    let kept := (history {} operations).filter (!·.answer.isFailure)
    history {} (kept.map (·.operation)) = kept ∧ final {} (kept.map (·.operation)) = store := by
  intro store
  have sound : store.IsSound := isSound_empty.final operations
  refine ⟨fun operation => ?_, isSound_empty.action_history operations, history_of_kept {} operations⟩
  have failure := sound.isFailure_perform_iff operation
  have whole := sound.answer_ofOperation operation
  refine ⟨failure, whole, fun fails => ?_⟩
  rw [whole]
  exact (perform_effect store operation).unchanged_of_failure (failure.mpr fails)

/-- Good content does not come in with a name that is taken, and the content stands first here. -/
example :
    let store := final {} [.save "ann".toList "a".toList "x".toList standardCategory,
      .save "ann".toList "b".toList "y".toList standardCategory]
    (Action.ofOperation (.update "wc_2".toList [("content".toList, "z".toList), ("name".toList, "a".toList)])).answer
      store = (.refused (.nameTaken "a".toList), store) := by
  decide +kernel

end PromptTemplate.Store
