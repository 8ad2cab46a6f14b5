import PromptTemplate.Proofs.Store.Effects

set_option autoImplicit false

namespace PromptTemplate.Store.IsSound

variable {store : Store} (sound : store.IsSound)

include sound

theorem added {user name : Text} (free : store.nameFault? user name none = none)
    (content category : Text) : (store.added user name content category).IsSound := by
  obtain ⟨valid, unused⟩ := nameFault?_eq_none_iff.mp free
  refine ⟨?_, ?_, ?_, ?_⟩
  · refine List.pairwise_append.mpr ⟨sound.ascending, List.pairwise_singleton _ _, ?_⟩
    intro item member last among
    obtain rfl := List.mem_singleton.mp among
    exact sound.given item member
  · intro item member
    change item.serial < store.nextSerial + 1
    rcases List.mem_append.mp member with old | new
    · have := sound.given item old
      omega
    · obtain rfl := List.mem_singleton.mp new
      exact Nat.lt_succ_self _
  · intro item member
    rcases List.mem_append.mp member with old | new
    · exact sound.named item old
    · obtain rfl := List.mem_singleton.mp new
      exact valid
  · refine List.pairwise_append.mpr ⟨sound.apart, List.pairwise_singleton _ _, ?_⟩
    intro item member last among owner same
    obtain rfl := List.mem_singleton.mp among
    cases unused item member owner same

/-- Changes that passed their checks leave a valid name that no other item of the user has. -/
theorem free_of_fit {item : StoredWildcard} {changes : Assoc Text Text} (member : item ∈ store.items)
    (fit : store.changeFault? item changes = none) :
    Name.fault? (applyChanges changes item).name = none ∧
      ∀ other ∈ store.items, other.user = item.user → other.name = (applyChanges changes item).name →
        other.id = item.id := by
  simp only [changeFault?] at fit
  split at fit
  · cases fit
  · rw [applyChanges_name]
    cases renamed : changes.get? "name".toList with
    | none =>
        -- The name stays, and this is the only item of the user that has it.
        refine ⟨sound.named item member, fun other among owner same => ?_⟩
        rw [sound.eq_of_name among member owner same]
    | some name =>
        rw [renamed] at fit
        obtain ⟨valid, unused⟩ := nameFault?_eq_none_iff.mp fit
        exact ⟨valid, fun other among owner same => Option.some.inj (unused other among owner same)⟩

theorem replaceItem {item changed : StoredWildcard} (member : item ∈ store.items)
    (id : changed.id = item.id) (user : changed.user = item.user)
    (valid : Name.fault? changed.name = none)
    (unused : ∀ other ∈ store.items, other.user = item.user → other.name = changed.name →
      other.id = item.id) : (store.replaceItem changed).IsSound := by
  have serial (present : StoredWildcard) :
      (if present.id = changed.id then changed else present).serial = present.serial := by
    split
    · next same => exact StoredWildcard.id_eq_iff.mp same.symm
    · rfl
  have owned : ∀ present ∈ store.items,
      (if present.id = changed.id then changed else present).user = present.user := by
    intro present among
    split
    · next same =>
        rw [user, sound.eq_of_id among member (same.trans id)]
    · rfl
  refine ⟨?_, ?_, ?_, ?_⟩
  · rw [replaceItem_items, List.pairwise_map]
    simpa only [serial] using sound.ascending
  · rw [replaceItem_items, List.forall_mem_map]
    intro present among
    rw [serial]
    exact sound.given present among
  · rw [replaceItem_items, List.forall_mem_map]
    intro present among
    split
    · exact valid
    · exact sound.named present among
  · rw [replaceItem_items, List.pairwise_map]
    refine (sound.ascending.and sound.apart).imp_of_mem ?_
    rintro first second inFirst inSecond ⟨less, apart⟩ owner
    rw [owned first inFirst, owned second inSecond] at owner
    have differ : first.id ≠ second.id := fun same =>
      Nat.ne_of_lt less (StoredWildcard.id_eq_iff.mp same)
    -- At most one of the two is the item that is replaced.
    split
    · next replaced =>
        rw [if_neg fun same => differ (replaced.trans same.symm)]
        intro name
        have theirs : second.user = item.user := by
          rw [← owner, sound.eq_of_id inFirst member (replaced.trans id)]
        have same : second.id = item.id := unused second inSecond theirs name.symm
        exact differ (replaced.trans (id.trans same.symm))
    · split
      · next replaced =>
          intro name
          have theirs : first.user = item.user := by
            rw [owner, sound.eq_of_id inSecond member (replaced.trans id)]
          have same : first.id = item.id := unused first inFirst theirs name
          exact differ (same.trans (id.symm.trans replaced.symm))
      · exact apart owner

theorem removed (id : Text) : IsSound { store with items := store.items.filter (·.id != id) } := by
  have subset : ∀ item ∈ store.items.filter (·.id != id), item ∈ store.items :=
    fun item member => (List.mem_filter.mp member).1
  exact ⟨sound.ascending.filter _, fun item member => sound.given item (subset item member),
    fun item member => sound.named item (subset item member), sound.apart.filter _⟩

theorem effect {operation : Operation} {answer : Answer} {next : Store}
    (effect : Effect store operation answer next) : next.IsSound := by
  cases effect with
  | created free => exact sound.added free _ _
  | changed found fit =>
      obtain ⟨member, _⟩ := mem_of_get? found
      obtain ⟨valid, unused⟩ := sound.free_of_fit member fit
      exact sound.replaceItem member rfl rfl valid unused
  | removed found => exact sound.removed _
  | idle unsaved => exact sound

theorem perform (operation : Operation) : (store.perform operation).2.IsSound :=
  sound.effect (perform_effect store operation)

theorem final (operations : List Operation) : (store.final operations).IsSound := by
  induction operations generalizing store with
  | nil => exact sound
  | cons operation rest ih => exact ih (sound.perform operation)

theorem of_mem_history {operations : List Operation} {record : Record}
    (member : record ∈ store.history operations) :
    record.before.IsSound ∧ Effect record.before record.operation record.answer record.after := by
  induction operations generalizing store with
  | nil => cases member
  | cons operation rest ih =>
      rw [history_cons] at member
      rcases List.mem_cons.mp member with rfl | later
      · exact ⟨sound, perform_effect store operation⟩
      · exact ih (sound.perform operation) later

end PromptTemplate.Store.IsSound
