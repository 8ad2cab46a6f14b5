import Mathlib
import PromptTemplate.Selection

set_option autoImplicit false

namespace PromptTemplate.Selection

/-- The digits of an index, one for each radix. -/
def digits : List Nat → Nat → List Nat
  | [], _ => []
  | size :: sizes, index => index / count sizes % size :: digits sizes index

/-- The index that digits stand for. -/
def place : List Nat → List Nat → Nat
  | _ :: sizes, digit :: rest => digit * count sizes + place sizes rest
  | _, _ => 0

theorem length_digits (sizes : List Nat) (index : Nat) :
    (digits sizes index).length = sizes.length := by
  induction sizes with
  | nil => rfl
  | cons size sizes ih => rw [digits, List.length_cons, ih, List.length_cons]

theorem count_eq_prod (sizes : List Nat) : count sizes = sizes.prod := rfl

theorem digits_lt {sizes : List Nat} (positive : ∀ size ∈ sizes, 0 < size) (index : Nat) :
    List.Forall₂ (· < ·) (digits sizes index) sizes := by
  induction sizes with
  | nil => exact .nil
  | cons size sizes ih =>
      rw [List.forall_mem_cons] at positive
      exact .cons (Nat.mod_lt _ positive.1) (ih positive.2)

/-- Whole rounds through all selections leave the digits as they are. -/
theorem digits_mul_count_add {sizes : List Nat} (positive : ∀ size ∈ sizes, 0 < size)
    (rounds index : Nat) : digits sizes (rounds * count sizes + index) = digits sizes index := by
  induction sizes generalizing rounds with
  | nil => rfl
  | cons size sizes ih =>
      rw [List.forall_mem_cons] at positive
      have regrouped : rounds * count (size :: sizes) + index =
          rounds * size * count sizes + index := by
        rw [count_cons, Nat.mul_assoc]
      have quotient : (rounds * size * count sizes + index) / count sizes =
          rounds * size + index / count sizes := by
        rw [Nat.mul_comm _ (count sizes), Nat.mul_add_div (count_pos positive.2)]
      simp only [digits, regrouped, ih positive.2, quotient, Nat.mul_add_mod_self_right]

theorem digits_mod_count {sizes : List Nat} (positive : ∀ size ∈ sizes, 0 < size) (index : Nat) :
    digits sizes (index % count sizes) = digits sizes index := by
  conv => rhs; rw [← Nat.div_add_mod' index (count sizes)]
  rw [digits_mul_count_add positive]

theorem size_pos_of_digits_lt {sizes selected : List Nat}
    (below : List.Forall₂ (· < ·) selected sizes) : ∀ size ∈ sizes, 0 < size := by
  induction below with
  | nil => simp
  | cons inside _ ih => exact List.forall_mem_cons.mpr ⟨Nat.zero_lt_of_lt inside, ih⟩

theorem place_lt {sizes selected : List Nat} (below : List.Forall₂ (· < ·) selected sizes) :
    place sizes selected < count sizes := by
  induction below with
  | nil => exact Nat.one_pos
  | @cons digit size rest sizes inside _ ih =>
      have room : (digit + 1) * count sizes ≤ size * count sizes :=
        Nat.mul_le_mul_right (count sizes) inside
      rw [Nat.add_mul, Nat.one_mul] at room
      simp only [place, count_cons]
      omega

theorem place_digits {sizes : List Nat} (positive : ∀ size ∈ sizes, 0 < size) {index : Nat}
    (inside : index < count sizes) : place sizes (digits sizes index) = index := by
  induction sizes generalizing index with
  | nil =>
      rw [count_nil] at inside
      simp only [place]
      omega
  | cons size sizes ih =>
      rw [List.forall_mem_cons] at positive
      have leading : index / count sizes < size :=
        Nat.div_lt_of_lt_mul (by rwa [count_cons, Nat.mul_comm] at inside)
      have trailing := ih positive.2 (Nat.mod_lt index (count_pos positive.2))
      rw [digits_mod_count positive.2] at trailing
      rw [digits, place, trailing, Nat.mod_eq_of_lt leading, Nat.div_add_mod']

/-- Digits below their radices are the digits of the index that they stand for. -/
theorem digits_place {sizes selected : List Nat} (below : List.Forall₂ (· < ·) selected sizes) :
    digits sizes (place sizes selected) = selected := by
  induction below with
  | nil => rfl
  | @cons digit size rest sizes inside others ih =>
      have bound := place_lt others
      have quotient : (digit * count sizes + place sizes rest) / count sizes = digit := by
        rw [Nat.mul_comm, Nat.mul_add_div (by omega), Nat.div_eq_of_lt bound, Nat.add_zero]
      rw [place, digits, quotient, Nat.mod_eq_of_lt inside,
        digits_mul_count_add (size_pos_of_digits_lt others), ih]

theorem existsUnique_digits {sizes selected : List Nat}
    (below : List.Forall₂ (· < ·) selected sizes) :
    ∃! index, index < count sizes ∧ digits sizes index = selected := by
  refine ⟨place sizes selected, ⟨place_lt below, digits_place below⟩, ?_⟩
  rintro index ⟨inside, rfl⟩
  exact (place_digits (size_pos_of_digits_lt below) inside).symm

end PromptTemplate.Selection
