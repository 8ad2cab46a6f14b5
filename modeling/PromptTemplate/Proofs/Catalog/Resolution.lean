import PromptTemplate.Catalog.Resolution
import PromptTemplate.Proofs.Assoc.Keys

set_option autoImplicit false

namespace PromptTemplate.Resolution

variable (catalog : Catalog) (resolution : Resolution)

/-- What a name can stand for: its entries, or itself if it has none. -/
def standing (name : Text) : List Text :=
  if (catalog.entries name).isEmpty then [name] else catalog.entries name

def isEntered (fallback : Bool) (name : Text) : Bool :=
  fallback || !(catalog.entries name).isEmpty

theorem resolved_enter (fallback : Bool) (name : Text) :
    (enter fallback catalog resolution name).resolved =
      if isEntered catalog fallback name then resolution.resolved.insert name (standing catalog name)
      else resolution.resolved := by
  cases found : catalog.entries name <;> simp [enter, isEntered, standing, found]

theorem resolved_foldl_enter (fallback : Bool) (names : List Text) :
    (names.foldl (enter fallback catalog) resolution).resolved =
      (names.filter (isEntered catalog fallback)).foldl
        (fun resolved name => resolved.insert name (standing catalog name)) resolution.resolved := by
  induction names generalizing resolution with
  | nil => rfl
  | cons name names ih =>
      rw [List.foldl_cons, ih, resolved_enter]
      cases entered : isEntered catalog fallback name with
      | true => rw [List.filter_cons_of_pos entered, List.foldl_cons, if_pos rfl]
      | false => rw [List.filter_cons_of_neg (by simp [entered]), if_neg Bool.false_ne_true]

theorem resolved_ofNames (fallback : Bool) (names : List Text) :
    (ofNames fallback catalog names).resolved =
      .ofList ((names.filter (isEntered catalog fallback)).map fun name => (name, standing catalog name)) := by
  rw [ofNames, resolved_foldl_enter, Assoc.ofList, Assoc.ofListBy, List.foldl_map]
  rfl

theorem get?_resolved_ofNames (fallback : Bool) (names : List Text) (name : Text) :
    (ofNames fallback catalog names).resolved.get? name =
      if name ∈ names ∧ isEntered catalog fallback name = true then some (standing catalog name) else none := by
  rw [resolved_ofNames, Assoc.get?_ofList_map]
  simp only [List.mem_filter]

theorem mem_resolved_ofNames {fallback : Bool} {names : List Text} {name : Text} :
    name ∈ (ofNames fallback catalog names).resolved.map (·.1) ↔
      name ∈ names ∧ isEntered catalog fallback name = true := by
  rw [resolved_ofNames, Assoc.mem_keys_ofList, List.map_map, ← List.mem_filter]
  exact iff_of_eq (congrArg _ (List.map_id _))

theorem entries_ofNames {names : List Text} {name : Text} (member : name ∈ names) :
    (ofNames false catalog names).entries name = catalog.entries name := by
  rw [entries, get?_resolved_ofNames]
  cases found : catalog.entries name <;> simp [isEntered, standing, found, member]

theorem missing_foldl_enter (fallback : Bool) (names : List Text) :
    (names.foldl (enter fallback catalog) resolution).missing =
      resolution.missing ++ names.filter fun name => (catalog.entries name).isEmpty := by
  induction names generalizing resolution with
  | nil => simp
  | cons name names ih =>
      rw [List.foldl_cons, ih]
      cases found : catalog.entries name <;> simp [enter, found]

theorem missing_ofNames (fallback : Bool) (names : List Text) :
    (ofNames fallback catalog names).missing = names.filter fun name => (catalog.entries name).isEmpty :=
  missing_foldl_enter catalog {} fallback names

end PromptTemplate.Resolution
