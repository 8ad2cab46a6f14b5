import Mathlib.Data.List.Nodup
import PromptTemplate.Assoc

set_option autoImplicit false

namespace PromptTemplate.Assoc

variable {κ ν : Type}

theorem insertBy_of_fresh (same : κ → κ → Bool) {entries : Assoc κ ν} {key : κ}
    (fresh : ∀ entry ∈ entries, same entry.1 key = false) (value : ν) :
    insertBy same entries key value = entries ++ [(key, value)] := by
  induction entries with
  | nil => rfl
  | cons entry rest ih =>
      obtain ⟨present, old⟩ := entry
      rw [List.forall_mem_cons] at fresh
      rw [insertBy, if_neg (by simp [fresh.1]), ih fresh.2, List.cons_append]

theorem ofListBy_of_distinct (same : κ → κ → Bool) {entries : List (κ × ν)}
    (distinct : entries.Pairwise fun first second => same first.1 second.1 = false) :
    ofListBy same entries = entries := by
  have behind : ∀ (rest : List (κ × ν)) (written : Assoc κ ν),
      (written ++ rest).Pairwise (fun first second => same first.1 second.1 = false) →
      rest.foldl (fun written entry => insertBy same written entry.1 entry.2) written =
        written ++ rest := by
    intro rest
    induction rest with
    | nil => intro written _; exact (List.append_nil written).symm
    | cons entry rest ih =>
        intro written apart
        have fresh : ∀ present ∈ written, same present.1 entry.1 = false := fun present member =>
          (List.pairwise_append.mp apart).2.2 present member entry List.mem_cons_self
        rw [List.append_cons] at apart
        rw [List.foldl_cons, insertBy_of_fresh same fresh, ih _ apart, List.append_assoc,
          List.singleton_append]
  exact behind entries [] distinct

variable [BEq κ] [LawfulBEq κ]

theorem get?_eq_none_of_not_mem {entries : Assoc κ ν} {key : κ} (absent : key ∉ entries.map (·.1)) :
    get? entries key = none := by
  induction entries with
  | nil => rfl
  | cons entry rest ih =>
      obtain ⟨present, value⟩ := entry
      rw [List.map_cons, List.mem_cons, not_or] at absent
      rw [get?_cons, if_neg (by simpa using Ne.symm absent.1), ih absent.2]

theorem keys_insert (entries : Assoc κ ν) (key : κ) (value : ν) :
    (insert entries key value).map (·.1) =
      if key ∈ entries.map (·.1) then entries.map (·.1) else entries.map (·.1) ++ [key] := by
  induction entries with
  | nil => rfl
  | cons entry rest ih =>
      obtain ⟨present, old⟩ := entry
      rw [insert] at ih
      rw [insert, insertBy]
      by_cases same : present = key
      · subst same
        simp
      · have differ : (present == key) = false := by simpa using same
        rw [differ, if_neg Bool.false_ne_true, List.map_cons, ih]
        have member : key ∈ (present :: rest.map (·.1)) ↔ key ∈ rest.map (·.1) := by
          rw [List.mem_cons, or_iff_right (Ne.symm same)]
        simp only [List.map_cons, member]
        split <;> rfl

theorem nodup_keys_insert {entries : Assoc κ ν} (nodup : (entries.map (·.1)).Nodup) (key : κ) (value : ν) :
    ((insert entries key value).map (·.1)).Nodup := by
  rw [keys_insert]
  split
  · exact nodup
  · next fresh => exact List.nodup_append_comm.mp (List.nodup_cons.mpr ⟨fresh, nodup⟩)

theorem mem_keys_ofList {entries : List (κ × ν)} {key : κ} :
    key ∈ (ofList entries).map (·.1) ↔ key ∈ entries.map (·.1) := by
  have written : ∀ (rest : List (κ × ν)) (written : Assoc κ ν),
      key ∈ (rest.foldl (fun written entry => insert written entry.1 entry.2) written).map (·.1) ↔
        key ∈ written.map (·.1) ∨ key ∈ rest.map (·.1) := by
    intro rest
    induction rest with
    | nil => intro written; simp
    | cons entry rest ih =>
        intro written
        rw [List.foldl_cons, ih, List.map_cons, List.mem_cons, keys_insert, ← or_assoc]
        apply or_congr_left
        split
        · next present => exact (or_iff_left_of_imp fun same => same ▸ present).symm
        · rw [List.mem_append, List.mem_singleton]
  rw [ofList, ofListBy]
  exact (written entries []).trans (or_iff_right List.not_mem_nil)

/-- Values that depend on their keys only are found under each of the keys, however often it is written. -/
theorem get?_ofList_map (value : κ → ν) (keys : List κ) (probe : κ) :
    get? (ofList (keys.map fun key => (key, value key))) probe = if probe ∈ keys then some (value probe) else none := by
  have written : ∀ (rest : List κ) (written : Assoc κ ν),
      get? ((rest.map fun key => (key, value key)).foldl (fun written entry => insert written entry.1 entry.2) written)
        probe = if probe ∈ rest then some (value probe) else get? written probe := by
    intro rest
    induction rest with
    | nil => intro written; simp
    | cons key rest ih =>
        intro written
        simp only [List.map_cons, List.foldl_cons, ih, get?_insert, List.mem_cons]
        by_cases same : key = probe
        · simp [same]
        · simp [same, Ne.symm same]
  exact written keys []

theorem nodup_keys_ofList (entries : List (κ × ν)) : ((ofList entries).map (·.1)).Nodup := by
  rw [ofList, ofListBy]
  refine List.foldlRecOn (motive := fun written : Assoc κ ν => (written.map (·.1)).Nodup) entries _ ?_ ?_
  · exact List.nodup_nil
  · exact fun _ nodup entry _ => nodup_keys_insert nodup entry.1 entry.2

end PromptTemplate.Assoc
