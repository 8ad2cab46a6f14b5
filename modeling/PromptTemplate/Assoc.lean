import PromptTemplate.Text.Basic

set_option autoImplicit false

namespace PromptTemplate

/-- Keys with their values, in the order of first insertion. -/
abbrev Assoc (κ ν : Type) := List (κ × ν)

namespace Assoc

variable {κ ν : Type}

/-- The value of the first entry whose key meets the test. -/
def find? (same : κ → κ → Bool) (entries : Assoc κ ν) (key : κ) : Option ν :=
  (List.find? (fun entry => same entry.1 key) entries).map (·.2)

/-- Writes a value under a key. A present key keeps its spelling and its place. -/
def insertBy (same : κ → κ → Bool) : Assoc κ ν → κ → ν → Assoc κ ν
  | [], key, value => [(key, value)]
  | (present, old) :: rest, key, value =>
    if same present key then (present, value) :: rest
    else (present, old) :: insertBy same rest key value

/-- Writes all entries one after the other, so that the last value of a repeated key stays. -/
def ofListBy (same : κ → κ → Bool) (entries : List (κ × ν)) : Assoc κ ν :=
  entries.foldl (fun written entry => insertBy same written entry.1 entry.2) []

/-- Writes under a key that is compared by equality. -/
def insert [BEq κ] (entries : Assoc κ ν) (key : κ) (value : ν) : Assoc κ ν :=
  insertBy (· == ·) entries key value

/-- The association list of entries whose keys are compared by equality. -/
def ofList [BEq κ] (entries : List (κ × ν)) : Assoc κ ν :=
  ofListBy (· == ·) entries

/-- The value under a key that is compared by equality. -/
def get? [BEq κ] (entries : Assoc κ ν) (key : κ) : Option ν :=
  find? (· == ·) entries key

@[simp] theorem get?_nil [BEq κ] (key : κ) : get? ([] : Assoc κ ν) key = none := rfl

theorem get?_cons [BEq κ] (present : κ) (value : ν) (rest : Assoc κ ν) (key : κ) :
    get? ((present, value) :: rest) key = if present == key then some value else get? rest key := by
  simp only [get?, find?, List.find?_cons]
  split <;> simp_all

theorem get?_insert [BEq κ] [LawfulBEq κ] (entries : Assoc κ ν) (key probe : κ) (value : ν) :
    get? (insert entries key value) probe = if key == probe then some value else get? entries probe := by
  induction entries with
  | nil => simp [insert, insertBy, get?_cons]
  | cons entry rest ih =>
      obtain ⟨present, old⟩ := entry
      simp only [insert] at ih
      simp only [insert, insertBy]
      by_cases same : present == key
      · have equal : present = key := eq_of_beq same
        subst equal
        simp only [BEq.rfl, if_true, get?_cons]
        split <;> simp_all
      · simp only [same, Bool.false_eq_true, if_false, get?_cons, ih]
        by_cases probed : present == probe
        · have equal : present = probe := eq_of_beq probed
          subst equal
          have apart : (key == present) = false := by
            simp only [beq_eq_false_iff_ne, ne_eq]
            intro keyed
            exact same (by simp [keyed])
          simp [apart]
        · simp [probed]

end Assoc

end PromptTemplate
