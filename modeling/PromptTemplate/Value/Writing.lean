import PromptTemplate.Value.Basic

set_option autoImplicit false

namespace PromptTemplate

namespace Value

mutual

/-- Whether a value can be written with collections nested up to `room` deep. An integer without a numeral cannot. -/
def isWritable : Nat → Value → Bool
  | _, .int n => Text.hasNumeral n
  | room, .list items | room, .set items | room, .tuple items => 0 < room && areWritable (room - 1) items
  | room, .map entries => 0 < room && entriesAreWritable (room - 1) entries
  | _, _ => true

def areWritable : Nat → List Value → Bool
  | _, [] => true
  | room, item :: rest => isWritable room item && areWritable room rest

def entriesAreWritable : Nat → List (Value × Value) → Bool
  | _, [] => true
  | room, (key, value) :: rest => isWritable room key && isWritable room value && entriesAreWritable room rest

end

/-- What stands in the way of writing a value: an integer without a numeral, or collections nested too deeply. -/
inductive Obstacle where
  | digits
  | depth
  deriving DecidableEq, Repr

mutual

/-- The first obstacle that is met in writing a value with collections nested up to `room` deep. -/
def obstacle? : Nat → Value → Option Obstacle
  | _, .int n => if Text.hasNumeral n then none else some .digits
  | room, .list items | room, .set items | room, .tuple items =>
    if 0 < room then firstObstacle? (room - 1) items else some .depth
  | room, .map entries => if 0 < room then entriesObstacle? (room - 1) entries else some .depth
  | _, _ => none

def firstObstacle? : Nat → List Value → Option Obstacle
  | _, [] => none
  | room, item :: rest => (obstacle? room item).or (firstObstacle? room rest)

def entriesObstacle? : Nat → List (Value × Value) → Option Obstacle
  | _, [] => none
  | room, (key, value) :: rest =>
    (obstacle? room key).or ((obstacle? room value).or (entriesObstacle? room rest))

end

mutual

/-- A value can be written if and only if nothing stands in the way. -/
theorem isNone_obstacle? : ∀ (room : Nat) (value : Value), (value.obstacle? room).isNone = value.isWritable room
  | room, .int n => by rw [obstacle?, isWritable]; cases Text.hasNumeral n <;> rfl
  | room, .list items => by
    rw [obstacle?, isWritable, ← isNone_firstObstacle? (room - 1) items]
    by_cases inside : 0 < room <;> simp [inside]
  | room, .set items => by
    rw [obstacle?, isWritable, ← isNone_firstObstacle? (room - 1) items]
    by_cases inside : 0 < room <;> simp [inside]
  | room, .tuple items => by
    rw [obstacle?, isWritable, ← isNone_firstObstacle? (room - 1) items]
    by_cases inside : 0 < room <;> simp [inside]
  | room, .map entries => by
    rw [obstacle?, isWritable, ← isNone_entriesObstacle? (room - 1) entries]
    by_cases inside : 0 < room <;> simp [inside]
  | _, .null | _, .bool _ | _, .float _ | _, .text _ | _, .timestamp _ | _, .bytes _ | _, .again _
  | _, .definition _ => by simp [obstacle?, isWritable]

theorem isNone_firstObstacle? : ∀ (room : Nat) (items : List Value),
    (firstObstacle? room items).isNone = areWritable room items
  | _, [] => rfl
  | room, item :: rest => by
    rw [firstObstacle?, areWritable, ← isNone_obstacle? room item, ← isNone_firstObstacle? room rest]
    cases obstacle? room item <;> simp

theorem isNone_entriesObstacle? : ∀ (room : Nat) (entries : List (Value × Value)),
    (entriesObstacle? room entries).isNone = entriesAreWritable room entries
  | _, [] => rfl
  | room, (key, value) :: rest => by
    rw [entriesObstacle?, entriesAreWritable, ← isNone_obstacle? room key, ← isNone_obstacle? room value,
      ← isNone_entriesObstacle? room rest]
    cases obstacle? room key <;> cases obstacle? room value <;> simp

end

@[simp] theorem isWritable_text (room : Nat) (t : Text) : (text t).isWritable room = true := by
  simp [isWritable]

@[simp] theorem isWritable_int (room : Nat) (n : Int) : (int n).isWritable room = Text.hasNumeral n := by
  rw [isWritable]

end Value

/-- How a reading ends that writes some of the values which it meets: with a fault, or at a value that it could not
write. -/
inductive Failure (φ : Type) where
  | fault (fault : φ)
  | unwritable (value : Value)

/-- The words for a failure. Nothing is reported of a value that cannot be written. -/
def Failure.message? {φ : Type} (words : φ → Option String) : Failure φ → Option String
  | .fault cause => words cause
  | .unwritable _ => none

/-- The same failure as a part of another reading. -/
def Failure.map {φ ψ : Type} (wrap : φ → ψ) : Failure φ → Failure ψ
  | .fault cause => .fault (wrap cause)
  | .unwritable value => .unwritable value

section

variable {φ α : Type} (room : Nat)

def written (value : Value) : Except (Failure φ) Unit :=
  if value.isWritable room then .ok () else .error (.unwritable value)

/-- A check, the complaint of which shows values and has to be written. -/
def stated (shown : φ → List Value) (check : Except φ α) : Except (Failure φ) α :=
  check.mapError fun fault =>
    match (shown fault).find? fun value => !value.isWritable room with
    | some value => .unwritable value
    | none => .fault fault

theorem stated_eq_ok_iff {shown : φ → List Value} {check : Except φ α} {result : α} :
    stated room shown check = .ok result ↔ check = .ok result := by
  cases check with
  | error fault =>
      constructor
      · intro same
        cases same
      · rintro ⟨⟩
  | ok given =>
      constructor
      · intro same
        exact congrArg Except.ok (Except.ok.inj same)
      · rintro ⟨⟩
        rfl

end

end PromptTemplate
