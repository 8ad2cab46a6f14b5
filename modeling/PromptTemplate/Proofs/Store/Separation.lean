import PromptTemplate.Proofs.Store.Soundness

set_option autoImplicit false

namespace PromptTemplate

def StoredWildcard.numbered (number : Nat → Nat) (item : StoredWildcard) : StoredWildcard :=
  { item with serial := number item.serial }

namespace Store

/-- The items of a user, in the order of their creation. -/
def owned (store : Store) (user : Text) : List StoredWildcard :=
  store.items.filter (·.user == user)

/-- The names, contents and categories of a user's items, in the order of their creation. -/
def rows (store : Store) (user : Text) : List (Text × Text × Text) :=
  (store.owned user).map fun item => (item.name, item.content, item.category)

/-- Whether an operation acts on a user: it stores an item for the user, or it changes or removes an item that the
user has. -/
def concerns (store : Store) (user : Text) : Operation → Bool
  | .save owner _ _ _ => owner == user
  | .update id _ | .delete id => (store.get? id).any (·.user == user)
  | .get _ | .definitions _ | .exportYaml _ | .expand _ _ _ => false

def Operation.withIds (ids : Assoc Text Text) : Operation → Operation
  | .get id => .get ((ids.get? id).getD id)
  | .update id changes => .update ((ids.get? id).getD id) changes
  | .delete id => .delete ((ids.get? id).getD id)
  | operation => operation

namespace Answer

def unnumbered : Answer → Answer
  | .saved item => .saved (item.numbered fun _ => 0)
  | .found item? => .found (item?.map (·.numbered fun _ => 0))
  | .updated item? => .updated (item?.map (·.numbered fun _ => 0))
  | answer => answer

/-- Notes the id that a second store gave to an item under the id that the first one gave to it. -/
def pairIds (ids : Assoc Text Text) (first second : Answer) : Assoc Text Text :=
  match first.saved?, second.saved? with
  | some item, some twin => ids.insert item.id twin.id
  | _, _ => ids

end Answer

/-- The operations of a run that act on a user, as the user alone asks them of a second store. Under the ids of
the first store `ids` has those that the second store gave. -/
def ownOperations (user : Text) (store own : Store) (ids : Assoc Text Text) : List Operation → List Operation
  | [] => []
  | operation :: rest =>
    let (answer, next) := store.perform operation
    if store.concerns user operation then
      let translated := operation.withIds ids
      let (twin, ownNext) := own.perform translated
      translated :: ownOperations user next ownNext (answer.pairIds ids twin) rest
    else ownOperations user next own ids rest

/-- Two records that are the same for a user. -/
structure SameFor (user : Text) (record own : Record) : Prop where
  /-- In both stores the operation acts on the user. -/
  concerned : record.before.concerns user record.operation = true ∧
    own.before.concerns user own.operation = true
  answer : record.answer.unnumbered = own.answer.unnumbered
  rows : record.after.rows user = own.after.rows user
  definitions : record.after.definitions user = own.after.definitions user
  yaml : record.after.exportYaml user = own.after.exportYaml user
  expansion : ∀ settings prompt, (record.after.perform (.expand settings user prompt)).1 =
    (own.after.perform (.expand settings user prompt)).1

/-- The items of a second store are those of a user in the first one under other numbers, and `ids` leads from the
ids in the first store to those in the second. -/
structure Mirrors (user : Text) (store own : Store) (ids : Assoc Text Text) (number : Nat → Nat) : Prop where
  sound : store.IsSound
  ownSound : own.IsSound
  items : own.items = (store.owned user).map (·.numbered number)
  leads : ∀ item ∈ store.owned user, ids.get? item.id = some (item.numbered number).id

theorem mem_owned {store : Store} {user : Text} {item : StoredWildcard} :
    item ∈ store.owned user ↔ item ∈ store.items ∧ item.user = user := by
  rw [owned, List.mem_filter, beq_iff_eq]

/-! ### Operations that do not act on a user -/

theorem owned_added (store : Store) (user owner name content category : Text) :
    (store.added owner name content category).owned user =
      store.owned user ++
        if owner = user then [⟨store.nextSerial, owner, name, content, category⟩] else [] := by
  simp only [owned, added, List.filter_append, List.filter_singleton, Bool.cond_eq_ite, beq_iff_eq]

theorem IsSound.owned_replaceItem {store : Store} (sound : store.IsSound) {item : StoredWildcard}
    (member : item ∈ store.items) (user : Text) (changes : Assoc Text Text) :
    (store.replaceItem (applyChanges changes item)).owned user =
      (store.owned user).map fun present => if present.id = item.id then applyChanges changes item else present := by
  rw [owned, replaceItem_items, List.filter_map, owned, applyChanges_id]
  congr 1
  apply List.filter_congr
  intro present among
  simp only [Function.comp_apply]
  split
  · next same => rw [applyChanges_user, sound.eq_of_id among member same]
  · rfl

theorem owned_removed (store : Store) (user id : Text) :
    owned { store with items := store.items.filter (·.id != id) } user =
      (store.owned user).filter (·.id != id) := by
  simp only [owned, List.filter_filter, Bool.and_comm]

theorem IsSound.id_ne_of_owned {store : Store} (sound : store.IsSound) {user : Text}
    {item present : StoredWildcard} (member : item ∈ store.items) (other : item.user ≠ user)
    (among : present ∈ store.owned user) : present.id ≠ item.id := by
  obtain ⟨inside, theirs⟩ := mem_owned.mp among
  intro same
  rw [sound.eq_of_id inside member same] at theirs
  exact other theirs

/-- The items of a user stay as they are under operations that act on others. -/
theorem IsSound.owned_effect {store next : Store} (sound : store.IsSound) {user : Text} {operation : Operation}
    {answer : Answer} (effect : Effect store operation answer next)
    (unconcerned : store.concerns user operation = false) : next.owned user = store.owned user := by
  cases effect with
  | created free =>
      have other := beq_eq_false_iff_ne.mp unconcerned
      rw [owned_added, if_neg other, List.append_nil]
  | @changed id changes item found fit =>
      have other : item.user ≠ user := by simpa [concerns, found] using unconcerned
      obtain ⟨member, _⟩ := mem_of_get? found
      rw [sound.owned_replaceItem member]
      exact (List.map_congr_left fun present among => if_neg (sound.id_ne_of_owned member other among)).trans
        (List.map_id _)
  | @removed id item found =>
      have other : item.user ≠ user := by simpa [concerns, found] using unconcerned
      obtain ⟨member, rfl⟩ := mem_of_get? found
      rw [owned_removed, List.filter_eq_self]
      exact fun present among => bne_iff_ne.mpr (sound.id_ne_of_owned member other among)
  | idle unsaved => rfl

/-! ### Two stores side by side -/

namespace Mirrors

theorem empty (user : Text) : Mirrors user {} {} [] id :=
  ⟨isSound_empty, isSound_empty, rfl, fun _ member => absurd member List.not_mem_nil⟩

variable {user : Text} {store own : Store} {ids : Assoc Text Text} {number : Nat → Nat}
  (mirrors : Mirrors user store own ids number)

include mirrors

theorem twin_mem {item : StoredWildcard} (member : item ∈ store.owned user) :
    item.numbered number ∈ own.items := by
  rw [mirrors.items]
  exact List.mem_map_of_mem member

theorem get?_twin {item : StoredWildcard} (member : item ∈ store.owned user) :
    own.get? (item.numbered number).id = some (item.numbered number) :=
  mirrors.ownSound.get?_eq_some_iff.mpr ⟨mirrors.twin_mem member, rfl⟩

/-- Different items have different ids in the second store too. -/
theorem twin_id_eq_iff {first second : StoredWildcard} (inFirst : first ∈ store.owned user)
    (inSecond : second ∈ store.owned user) :
    (first.numbered number).id = (second.numbered number).id ↔ first.id = second.id := by
  have nodup : ((store.owned user).map fun item => (item.numbered number).id).Nodup := by
    have ids := mirrors.ownSound.nodup_ids
    rwa [mirrors.items, List.map_map] at ids
  constructor
  · intro same
    exact congrArg StoredWildcard.id (List.inj_on_of_nodup_map nodup inFirst inSecond same)
  · intro same
    rw [mirrors.sound.eq_of_id (mem_owned.mp inFirst).1 (mem_owned.mp inSecond).1 same]

/-- All items of the second store are the user's. -/
theorem owned_own : own.owned user = (store.owned user).map (·.numbered number) := by
  rw [← mirrors.items, owned, List.filter_eq_self, mirrors.items, List.forall_mem_map]
  exact fun item member => beq_iff_eq.mpr (mem_owned.mp member).2

theorem rows : store.rows user = own.rows user := by
  rw [Store.rows, Store.rows, mirrors.owned_own, List.map_map]
  rfl

theorem definitions : store.definitions user = own.definitions user := by
  change (store.owned user).map StoredWildcard.definition = (own.owned user).map StoredWildcard.definition
  rw [mirrors.owned_own, List.map_map]
  rfl

theorem nameFault? (name : Text) {except twin : Option Text}
    (same : ∀ item ∈ store.owned user, some (item.numbered number).id = twin ↔ some item.id = except) :
    own.nameFault? user name twin = store.nameFault? user name except := by
  have taken : own.isTaken user name twin = store.isTaken user name except := by
    rw [Bool.eq_iff_iff]
    simp only [isTaken, mirrors.items, List.any_map, List.any_eq_true, Function.comp_apply, Bool.and_eq_true,
      beq_iff_eq, bne_iff_ne]
    constructor
    · rintro ⟨item, among, named, other⟩
      exact ⟨item, (mem_owned.mp among).1, named, fun spared => other ((same item among).mpr spared)⟩
    · rintro ⟨item, member, named, other⟩
      have among : item ∈ store.owned user := mem_owned.mpr ⟨member, named.1⟩
      exact ⟨item, among, named, fun spared => other ((same item among).mp spared)⟩
  rw [Store.nameFault?, Store.nameFault?, taken]

theorem nameFault?_new (name : Text) : own.nameFault? user name none = store.nameFault? user name none :=
  mirrors.nameFault? name fun _ _ => iff_of_false (Option.some_ne_none _) (Option.some_ne_none _)

theorem changeFault? {item : StoredWildcard} (member : item ∈ store.owned user) (changes : Assoc Text Text) :
    own.changeFault? (item.numbered number) changes = store.changeFault? item changes := by
  have theirs : item.user = user := (mem_owned.mp member).2
  have fault (name : Text) : own.nameFault? item.user name (some (item.numbered number).id) =
      store.nameFault? item.user name (some item.id) := by
    rw [theirs]
    refine mirrors.nameFault? name fun other among => ?_
    rw [Option.some.injEq, Option.some.injEq, mirrors.twin_id_eq_iff among member]
  simp only [Store.changeFault?]
  split
  · rfl
  · cases changes.get? "name".toList with
    | none => rfl
    | some name => exact fault name

theorem exists_twin {id : Text} (concerned : (store.get? id).any (·.user == user) = true) :
    ∃ item ∈ store.owned user, item.id = id ∧ store.get? id = some item ∧
      (ids.get? id).getD id = (item.numbered number).id ∧
      own.get? (item.numbered number).id = some (item.numbered number) ∧
      (item.numbered number).user = user := by
  cases found : store.get? id with
  | none => simp [found] at concerned
  | some item =>
      obtain ⟨inside, rfl⟩ := mem_of_get? found
      have theirs : item.user = user := by simpa [found] using concerned
      have member : item ∈ store.owned user := mem_owned.mpr ⟨inside, theirs⟩
      refine ⟨item, member, rfl, rfl, ?_, mirrors.get?_twin member, theirs⟩
      rw [mirrors.leads item member, Option.getD_some]

/-- Both stores get an item, each under its own next number, which is noted. -/
theorem added {name : Text} (free : store.nameFault? user name none = none) (content category : Text) :
    Mirrors user (store.added user name content category) (own.added user name content category)
      (ids.insert (StoredWildcard.idOf store.nextSerial) (StoredWildcard.idOf own.nextSerial))
      (Function.update number store.nextSerial own.nextSerial) := by
  have ownFree := (mirrors.nameFault?_new name).trans free
  -- The number is new to the first store, so that the items that were there keep theirs.
  have kept : ∀ item ∈ store.owned user,
      item.numbered (Function.update number store.nextSerial own.nextSerial) = item.numbered number := by
    intro item member
    have older : item.serial ≠ store.nextSerial :=
      Nat.ne_of_lt (mirrors.sound.given item (mem_owned.mp member).1)
    rw [StoredWildcard.numbered, Function.update_of_ne older, StoredWildcard.numbered]
  refine ⟨mirrors.sound.added free content category, mirrors.ownSound.added ownFree content category, ?_, ?_⟩
  · rw [owned_added, if_pos rfl, List.map_append, List.map_congr_left kept, ← mirrors.items]
    simp [Store.added, StoredWildcard.numbered]
  · rw [owned_added, if_pos rfl]
    intro item member
    rcases List.mem_append.mp member with old | new
    · have older := mirrors.sound.id_ne_next (mem_owned.mp old).1
      rw [Assoc.get?_insert, if_neg (by simpa using Ne.symm older), kept item old]
      exact mirrors.leads item old
    · obtain rfl := List.mem_singleton.mp new
      rw [Assoc.get?_insert, if_pos (by simp [StoredWildcard.id])]
      simp [StoredWildcard.id, StoredWildcard.numbered]

theorem changed {item : StoredWildcard} (member : item ∈ store.owned user) {changes : List (Text × Text)}
    (fit : store.changeFault? item (.ofList changes) = none) :
    Mirrors user (store.replaceItem (applyChanges (.ofList changes) item))
      (own.replaceItem (applyChanges (.ofList changes) (item.numbered number))) ids number := by
  have found := mirrors.sound.get?_eq_some_iff.mpr ⟨(mem_owned.mp member).1, rfl⟩
  have ownFit := (mirrors.changeFault? member (.ofList changes)).trans fit
  refine ⟨mirrors.sound.effect (.changed found fit),
    mirrors.ownSound.effect (.changed (mirrors.get?_twin member) ownFit), ?_, ?_⟩
  · rw [replaceItem_items, mirrors.items, List.map_map,
      mirrors.sound.owned_replaceItem (mem_owned.mp member).1, List.map_map]
    apply List.map_congr_left
    intro present among
    simp only [Function.comp_apply, applyChanges_id, mirrors.twin_id_eq_iff among member]
    split <;> rfl
  · rw [mirrors.sound.owned_replaceItem (mem_owned.mp member).1, List.forall_mem_map]
    intro present among
    split
    · exact mirrors.leads item member
    · exact mirrors.leads present among

theorem removed {item : StoredWildcard} (member : item ∈ store.owned user) :
    Mirrors user { store with items := store.items.filter (·.id != item.id) }
      { own with items := own.items.filter (·.id != (item.numbered number).id) } ids number := by
  refine ⟨mirrors.sound.removed item.id, mirrors.ownSound.removed _, ?_, ?_⟩
  · rw [owned_removed, mirrors.items, List.filter_map]
    refine congrArg (List.map _) (List.filter_congr fun present among => ?_)
    rw [Function.comp_apply, Bool.eq_iff_iff, bne_iff_ne, bne_iff_ne, Ne, mirrors.twin_id_eq_iff among member]
  · rw [owned_removed]
    exact fun present among => mirrors.leads present (List.mem_filter.mp among).1

/-- An operation that acts on the user comes to the same in both stores. -/
theorem step {operation : Operation} (concerned : store.concerns user operation = true) :
    let twin := operation.withIds ids
    own.concerns user twin = true ∧
      (store.perform operation).1.unnumbered = (own.perform twin).1.unnumbered ∧
      ∃ number, Mirrors user (store.perform operation).2 (own.perform twin).2
        ((store.perform operation).1.pairIds ids (own.perform twin).1) number := by
  intro twin
  cases operation with
  | save owner name content category =>
      obtain rfl : owner = user := beq_iff_eq.mp concerned
      refine ⟨concerned, ?_⟩
      simp only [twin, Operation.withIds, perform_save, mirrors.nameFault?_new name]
      cases free : store.nameFault? owner name none with
      | some fault => exact ⟨rfl, number, mirrors⟩
      | none => exact ⟨rfl, _, mirrors.added free content category⟩
  | update id changes =>
      obtain ⟨item, member, rfl, found, translated, ownFound, theirs⟩ := mirrors.exists_twin concerned
      refine ⟨by simp [twin, Operation.withIds, translated, concerns, ownFound, theirs], ?_⟩
      simp only [twin, Operation.withIds, translated, perform_update, found, ownFound, mirrors.changeFault? member]
      cases fit : store.changeFault? item (.ofList changes) with
      | some fault => exact ⟨rfl, number, mirrors⟩
      | none => exact ⟨rfl, number, mirrors.changed member fit⟩
  | delete id =>
      obtain ⟨item, member, rfl, found, translated, ownFound, theirs⟩ := mirrors.exists_twin concerned
      refine ⟨by simp [twin, Operation.withIds, translated, concerns, ownFound, theirs], ?_⟩
      simp only [twin, Operation.withIds, translated, perform_delete, found, ownFound]
      exact ⟨rfl, number, mirrors.removed member⟩
  | get id => cases concerned
  | definitions owner => cases concerned
  | exportYaml owner => cases concerned
  | expand settings owner prompt => cases concerned

/-- An operation that acts on others leaves the two stores alike. -/
theorem skip {operation : Operation} (unconcerned : store.concerns user operation = false) :
    Mirrors user (store.perform operation).2 own ids number := by
  have unchanged := mirrors.sound.owned_effect (perform_effect store operation) unconcerned
  refine ⟨mirrors.sound.perform operation, mirrors.ownSound, ?_, ?_⟩
  · rw [unchanged, mirrors.items]
  · rw [unchanged]
    exact mirrors.leads

/-- Of a run in the first store and the user's operations of it in the second, the records of the user's operations
are the same for the user. -/
theorem run (operations : List Operation) :
    List.Forall₂ (SameFor user) ((store.history operations).filter fun record =>
        record.before.concerns user record.operation)
      (own.history (ownOperations user store own ids operations)) := by
  -- Every step goes on with other stores, ids and numbers; that they mirror each other is all that is kept.
  induction operations generalizing store own ids number with
  | nil => exact .nil
  | cons operation rest ih =>
      rw [history_cons, ownOperations]
      cases concerned : store.concerns user operation with
      | false =>
          rw [List.filter_cons_of_neg (by simp [concerned])]
          exact ih (mirrors.skip concerned)
      | true =>
          obtain ⟨ownConcerned, answer, number, next⟩ := mirrors.step concerned
          rw [List.filter_cons_of_pos (by simp [concerned])]
          simp only [if_true, history_cons]
          refine .cons ⟨⟨concerned, ownConcerned⟩, answer, next.rows, next.definitions, ?_, ?_⟩ (ih next)
          · exact congrArg (Yaml.print ∘ document) next.definitions
          · exact fun settings prompt => congrArg
              (fun catalog : Catalog => Answer.expansion (expand settings catalog.distinct prompt)) next.definitions

end Mirrors

/-- Users of one store do not meet. In any run from an empty store, the operations that act on a user come to what
they come to when the user alone asks them of another empty store, under the ids that this one gives: each has
the same answer but for the numbers of items, and behind each the user has the same items, definitions, file and
expansions. The operations in between leave the user's items as they are. -/
theorem users_kept_apart (user : Text) (operations : List Operation) :
    List.Forall₂ (SameFor user) ((history {} operations).filter fun record =>
        record.before.concerns user record.operation)
      (history {} (ownOperations user {} {} [] operations)) ∧
    ∀ record ∈ history {} operations, record.before.concerns user record.operation = false →
      record.after.owned user = record.before.owned user := by
  refine ⟨(Mirrors.empty user).run operations, fun record member unconcerned => ?_⟩
  obtain ⟨sound, effect⟩ := isSound_empty.of_mem_history member
  exact sound.owned_effect effect unconcerned

/-- The second item of the shared store is the first one of the user's own. -/
example :
    let own := ownOperations "ann".toList {} {} []
      [.save "bob".toList "a".toList "x".toList standardCategory,
        .save "ann".toList "a".toList "y".toList standardCategory,
        .update "wc_2".toList [("name".toList, "b".toList)], .delete "wc_1".toList]
    (history {} own).map (·.answer) =
      [.saved ⟨1, "ann".toList, "a".toList, "y".toList, standardCategory⟩,
        .updated (some ⟨1, "ann".toList, "b".toList, "y".toList, standardCategory⟩)] := by
  decide +kernel

end Store

end PromptTemplate
