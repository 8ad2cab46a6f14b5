import PromptTemplate.Issue

set_option autoImplicit false

namespace PromptTemplate.Selection

/-- The number of selections from lists of the given lengths. -/
def count (sizes : List Nat) : Nat :=
  sizes.foldr (· * ·) 1

/-- Every choice of one element from each list; the last list runs fastest. -/
def product {α : Type} : List (List α) → List (List α)
  | [] => [[]]
  | choices :: rest => choices.flatMap fun choice => (product rest).map (choice :: ·)

/-- The text picked for a name. Of a repeated name the last pick counts. -/
def pick (names picks : List Text) (name : Text) : Option Text :=
  ((names.zip picks).reverse.find? (·.1 == name)).map (·.2)

def unresolved (entries : Text → List Text) (names : List Text) : List Text :=
  names.filter fun name => (entries name).isEmpty

def unit (text : Text) (names picks : List Text) : Text :=
  Text.trim (Reference.substitute (pick names picks) text)

/-- The text under every selection for the given names. Without names it is the text itself. -/
def units (text : Text) (names : List Text) (entries : Text → List Text) : List Text :=
  if names.isEmpty then [text]
  else (product (names.map entries)).map (unit text names)

def units? (text : Text) (names : List Text) (entries : Text → List Text) :
    Except Issue (List Text) :=
  match unresolved entries names with
  | [] => .ok (units text names entries)
  | missing => .error (.missing missing)

@[simp] theorem count_nil : count [] = 1 := rfl

@[simp] theorem count_cons (size : Nat) (sizes : List Nat) :
    count (size :: sizes) = size * count sizes := rfl

theorem count_pos {sizes : List Nat} (positive : ∀ size ∈ sizes, 0 < size) : 0 < count sizes := by
  induction sizes with
  | nil => exact Nat.one_pos
  | cons size sizes ih =>
      rw [List.forall_mem_cons] at positive
      exact Nat.mul_pos positive.1 (ih positive.2)

theorem unresolved_eq_nil {entries : Text → List Text} {names : List Text} :
    unresolved entries names = [] ↔ ∀ name ∈ names, entries name ≠ [] := by
  simp [unresolved]

theorem units?_of_resolved (text : Text) {names : List Text} {entries : Text → List Text}
    (resolved : unresolved entries names = []) :
    units? text names entries = .ok (units text names entries) := by
  simp only [units?, resolved]

theorem length_product {α : Type} (lists : List (List α)) :
    (product lists).length = count (lists.map List.length) := by
  induction lists with
  | nil => rfl
  | cons choices rest ih =>
      simp only [product, List.length_flatMap, List.length_map, ih, List.map_cons, count_cons,
        List.map_const', List.sum_replicate_nat]

theorem units_of_names (text : Text) {names : List Text} (entries : Text → List Text)
    (referring : names ≠ []) :
    units text names entries = (product (names.map entries)).map (unit text names) := by
  have present : names.isEmpty = false := by simpa using referring
  simp only [units, present, Bool.false_eq_true, ↓reduceIte]

theorem length_units (text : Text) (names : List Text) (entries : Text → List Text) :
    (units text names entries).length = count (names.map fun name => (entries name).length) := by
  by_cases referring : names = []
  · subst referring
    rfl
  · rw [units_of_names text entries referring, List.length_map, length_product, List.map_map]
    rfl

theorem lengths_pos {α β : Type} {items : List α} {list : α → List β}
    (nonempty : ∀ item ∈ items, list item ≠ []) :
    ∀ size ∈ items.map fun item => (list item).length, 0 < size := by
  intro size member
  obtain ⟨item, among, rfl⟩ := List.mem_map.mp member
  exact List.length_pos_iff.mpr (nonempty item among)

theorem units_ne_nil {text : Text} {names : List Text} {entries : Text → List Text}
    (resolved : ∀ name ∈ names, entries name ≠ []) : units text names entries ≠ [] := by
  rw [← List.length_pos_iff, length_units]
  exact count_pos (lengths_pos resolved)

end PromptTemplate.Selection
