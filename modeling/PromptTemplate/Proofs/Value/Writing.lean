import PromptTemplate.Value.Writing

set_option autoImplicit false

namespace PromptTemplate

/-- A reading that writes values as it meets them comes to what a plain reading comes to, unless it breaks off at a value
that cannot be written. -/
def Follows {φ α : Type} (room : Nat) (reading : Except (Failure φ) α) (plain : Except φ α) : Prop :=
  reading = plain.mapError .fault ∨
    ∃ value : Value, value.isWritable room = false ∧ reading = .error (.unwritable value)

variable {φ ψ α β : Type} {room : Nat}

theorem follows_written (value : Value) : Follows room (written room value) (.ok () : Except φ Unit) := by
  rw [written]
  cases writable : value.isWritable room with
  | true => exact Or.inl rfl
  | false => exact Or.inr ⟨value, writable, rfl⟩

/-- Writing a value before a reading goes on adds no other way to fail. -/
theorem follows_after_written (value : Value) {next : Unit → Except (Failure φ) α} {plain : Except φ α}
    (later : Follows room (next ()) plain) : Follows room (written room value >>= next) plain := by
  have first : Follows room (written room value) (.ok () : Except φ Unit) := follows_written value
  rcases first with same | ⟨other, unwritable, broken⟩
  · rw [same]
    exact later
  · rw [broken]
    exact Or.inr ⟨other, unwritable, rfl⟩

theorem follows_stated (shown : φ → List Value) (check : Except φ α) : Follows room (stated room shown check) check := by
  cases check with
  | ok result => exact Or.inl rfl
  | error fault =>
      cases hidden : (shown fault).find? fun value => !value.isWritable room with
      | none => exact Or.inl (congrArg Except.error (by simp only [hidden]))
      | some value =>
          refine Or.inr ⟨value, by simpa using List.find?_some hidden, ?_⟩
          exact congrArg Except.error (by simp only [hidden])

namespace Follows

variable {reading : Except (Failure φ) α} {plain : Except φ α}

theorem bind {next : α → Except (Failure φ) β} {after : α → Except φ β} (follows : Follows room reading plain)
    (later : ∀ result, Follows room (next result) (after result)) :
    Follows room (reading >>= next) (plain >>= after) := by
  rcases follows with rfl | ⟨value, unwritable, rfl⟩
  · cases plain with
    | error fault => exact Or.inl rfl
    | ok result => exact later result
  · exact Or.inr ⟨value, unwritable, rfl⟩

theorem map (change : α → β) (follows : Follows room reading plain) :
    Follows room (reading.map change) (plain.map change) := by
  rcases follows with rfl | ⟨value, unwritable, rfl⟩
  · cases plain <;> exact Or.inl rfl
  · exact Or.inr ⟨value, unwritable, rfl⟩

theorem mapError (wrap : φ → ψ) (follows : Follows room reading plain) :
    Follows room (reading.mapError (.map wrap)) (plain.mapError wrap) := by
  rcases follows with rfl | ⟨value, unwritable, rfl⟩
  · cases plain <;> exact Or.inl rfl
  · exact Or.inr ⟨value, unwritable, rfl⟩

end Follows

theorem follows_forM_written (values : List Value) :
    Follows room (values.forM (written room)) (.ok () : Except φ Unit) := by
  induction values with
  | nil => exact Or.inl rfl
  | cons value rest ih => exact (follows_written value).bind fun _ => ih

theorem follows_forM {check : β → Except (Failure φ) Unit} {plain : β → Except φ Unit}
    (checked : ∀ item, Follows room (check item) (plain item)) (items : List β) :
    Follows room (items.forM check) (items.forM plain) := by
  induction items with
  | nil => exact Or.inl rfl
  | cons item rest ih => exact (checked item).bind fun _ => ih

end PromptTemplate
