import Mathlib.Data.List.Forall2
import PromptTemplate.Yaml.Content
import PromptTemplate.Yaml.Printer

set_option autoImplicit false

namespace PromptTemplate.Yaml

namespace Document

mutual

/-- Whether a node stands for a value that is put together of texts, lists and maps with text keys. -/
def holds (document : Document) (id : Nat) : Value → Bool
  | .text text =>
    match document.cell id with
    | .plain (.text found) => found == text
    | _ => false
  | .list items =>
    match document.cell id with
    | .list ids => document.holdsItems ids items
    | _ => false
  | .map entries =>
    match document.cell id with
    | .map found => document.holdsEntries found entries
    | _ => false
  | _ => false

def holdsItems (document : Document) : List Nat → List Value → Bool
  | [], [] => true
  | id :: ids, item :: items => document.holds id item && document.holdsItems ids items
  | _, _ => false

/-- Whether the entries of a node are those of a map, in the same order. -/
def holdsEntries (document : Document) : List (Value × Nat) → List (Value × Value) → Bool
  | [], [] => true
  | (.text found, id) :: ids, (.text key, value) :: entries =>
    found == key && document.holds id value && document.holdsEntries ids entries
  | _, _ => false

end

variable {document : Document}

def IsRight (document : Document) (known : Known) : Prop :=
  ∀ id value found, document.cell id = .plain value → known.getD id none = some found → found = value

theorem isRight_unknown : document.IsRight document.unknown := by
  intro id value found plain present
  have nothing : document.unknown.getD id none = none := by
    rw [Document.unknown, Array.getD_eq_getD_getElem?, Array.getElem?_replicate]
    split <;> rfl
  rw [nothing] at present
  cases present

theorem unfold_plain {known : Known} (right : document.IsRight known) {id : Nat} {value : Value}
    (plain : document.cell id = .plain value) (fuel : Nat) (path : List Site) :
    ∃ next, (document.unfold (fuel + 1) path id).run known = (⟨value, true⟩, next) ∧
      document.IsRight next := by
  rw [unfold]
  simp only [StateT.run_bind, StateT.run_get, pure_bind]
  cases present : known.getD id none with
  | some found =>
      obtain rfl := right id value found plain present
      exact ⟨known, rfl, right⟩
  | none =>
      simp only [plain]
      refine ⟨known.setIfInBounds id (some value), rfl, ?_⟩
      intro other held found otherPlain otherPresent
      rw [Array.getD_eq_getD_getElem?, Array.getElem?_setIfInBounds] at otherPresent
      by_cases same : id = other
      · -- Only the value of this node is noted for it.
        subst same
        obtain rfl : value = held := by simpa [plain] using otherPlain
        split_ifs at otherPresent <;> simp_all
      · rw [if_neg same, ← Array.getD_eq_getD_getElem?] at otherPresent
        exact right other held found otherPlain otherPresent

theorem values_of_plain {ids : List Nat} {values : List Value}
    (plain : List.Forall₂ (fun id value => document.cell id = .plain value) ids values) :
    document.values ids = values := by
  have unfolded : ∀ known, document.IsRight known → ∃ next,
      (ids.mapM fun id => document.unfold document.depth [] id).run known =
        (values.map (⟨·, true⟩), next) := by
    induction plain with
    | nil => exact fun known right => ⟨known, rfl⟩
    | @cons id value ids values here later ih =>
        intro known right
        -- What is noted of this node is right, and the others are unfolded with it.
        obtain ⟨middle, first, rightMiddle⟩ := unfold_plain right here (4 * document.cells.size + 3) []
        change (document.unfold document.depth [] id).run known = _ at first
        obtain ⟨next, rest⟩ := ih middle rightMiddle
        refine ⟨next, ?_⟩
        rw [List.mapM_cons, StateT.run_bind, first]
        change ((ids.mapM fun id => document.unfold document.depth [] id) >>= _).run middle = _
        rw [StateT.run_bind, rest]
        rfl
  obtain ⟨next, run⟩ := unfolded document.unknown isRight_unknown
  simp only [Document.values, run, List.map_map]
  exact List.map_id _

theorem forall₂_of_holdsItems {ids : List Nat} {texts : List Text}
    (held : document.holdsItems ids (texts.map .text) = true) :
    List.Forall₂ (fun id value => document.cell id = .plain value) ids (texts.map .text) := by
  induction texts generalizing ids with
  | nil =>
      cases ids with
      | nil => exact .nil
      | cons id rest => cases held
  | cons text others ih =>
      cases ids with
      | nil => cases held
      | cons id rest =>
          rw [List.map_cons, holdsItems, Bool.and_eq_true, holds] at held
          refine .cons ?_ (ih held.2)
          have here := held.1
          split at here
          · next found plain => rw [plain, beq_iff_eq.mp here]
          · cases here

theorem opened_of_holds {id : Nat} {texts : List Text}
    (held : document.holds id (.list (texts.map .text)) = true) :
    document.opened id = .list (texts.map .text) := by
  rw [holds] at held
  split at held
  · next ids listed =>
      rw [opened, listed]
      exact congrArg Value.list (values_of_plain (forall₂_of_holdsItems held))
  · cases held

theorem exists_of_holdsEntries_cons {found : List (Value × Nat)} {key : Text} {value : Value}
    {entries : List (Value × Value)}
    (held : document.holdsEntries found ((.text key, value) :: entries) = true) :
    ∃ id rest, found = (.text key, id) :: rest ∧ document.holds id value = true ∧
      document.holdsEntries rest entries = true := by
  cases found with
  | nil => cases held
  | cons entry rest =>
      obtain ⟨present, id⟩ := entry
      cases present with
      | text name =>
          rw [holdsEntries, Bool.and_eq_true, Bool.and_eq_true, beq_iff_eq] at held
          obtain ⟨⟨rfl, here⟩, later⟩ := held
          exact ⟨id, rest, rfl, here, later⟩
      | _ => simp [holdsEntries] at held

theorem eq_nil_of_holdsEntries_nil {found : List (Value × Nat)}
    (held : document.holdsEntries found [] = true) : found = [] := by
  cases found with
  | nil => rfl
  | cons entry rest => simp [holdsEntries] at held

theorem map_opened_of_holdsEntries {found : List (Value × Nat)} {entries : List (Value × Value)}
    (texts : ∀ entry ∈ entries, ∃ (name : Text) (items : List Text),
      entry = (.text name, .list (items.map .text)))
    (held : document.holdsEntries found entries = true) :
    (found.map fun (key, id) => (key, document.opened id)) = entries := by
  induction entries generalizing found with
  | nil => rw [eq_nil_of_holdsEntries_nil held, List.map_nil]
  | cons entry others ih =>
      obtain ⟨⟨name, items, rfl⟩, otherTexts⟩ := List.forall_mem_cons.mp texts
      obtain ⟨id, rest, rfl, here, later⟩ := exists_of_holdsEntries_cons held
      simp only [List.map_cons, opened_of_holds here, ih otherTexts later]

end Document

/-- Whether a value that was printed is read again: the document in the printed text holds it. -/
def restores (value : Value) (read : Reader := Yaml.read) (print : Value → Text := Yaml.print) : Bool :=
  match read (print value) with
  | .ok document => document.holds document.root value
  | .error _ => false

end PromptTemplate.Yaml
