import Mathlib.Tactic.SplitIfs
import PromptTemplate.Store
import PromptTemplate.Text.Basic

set_option autoImplicit false

namespace PromptTemplate

theorem Text.normaliseBreaks_of_not_mem {text : Text} (unbroken : '\r' ∉ text) :
    normaliseBreaks text = text := by
  induction text with
  | nil => rfl
  | cons c rest ih =>
      obtain ⟨other, unbrokenRest⟩ := List.ne_and_not_mem_of_not_mem_cons unbroken
      rw [normaliseBreaks, if_neg (Ne.symm other), ih unbrokenRest]
      rintro rest rfl
      exact absurd rfl other

namespace Yaml

namespace Pen

/-- A pen that has written no carriage return. -/
def IsClean (pen : Pen) : Prop :=
  '\r' ∉ pen.written

namespace IsClean

variable {pen : Pen} (clean : pen.IsClean)

include clean

theorem write {text : Text} (unbroken : '\r' ∉ text) : (pen.write text).IsClean := by
  simpa [IsClean, Pen.write] using ⟨unbroken, clean⟩

theorem endLine {mark : Char} (other : mark ≠ '\r') : (pen.endLine mark).IsClean :=
  List.not_mem_cons_of_ne_of_not_mem (Ne.symm other) clean

theorem settle : pen.settle.IsClean := clean

theorem toColumn (column : Nat) : (pen.toColumn column).IsClean := by
  obtain ⟨started, equal, fresh⟩ : ∃ started : Pen, started =
      (if !pen.isFresh || column < pen.column || (pen.column == column && !pen.isBlank) then pen.endLine
        else pen) ∧ started.IsClean := by
    refine ⟨_, rfl, ?_⟩
    split
    · exact clean.endLine (by decide)
    · exact clean
  simp only [Pen.toColumn, ← equal]
  split
  · exact fresh.write (by simp [List.mem_replicate])
  · exact fresh

theorem mark {text : Text} (unbroken : '\r' ∉ text) (needsSpace keepsFresh : Bool) :
    (pen.mark text needsSpace keepsFresh).IsClean := by
  have spaced : '\r' ∉ if pen.isBlank || !needsSpace then text else ' ' :: text := by
    split
    · exact unbroken
    · simpa using unbroken
  exact clean.write spaced

end IsClean

end Pen

namespace Printer

open Pen (IsClean)

/-! ### Characters -/

theorem mem_of_mem_runs {text part : Text} {c : Char} (among : part ∈ runs text) (member : c ∈ part) :
    c ∈ text := by
  fun_induction runs text with
  | case1 => cases among
  | case2 first rest ih =>
      rcases List.mem_cons.mp among with rfl | later
      · rcases List.mem_cons.mp member with rfl | inside
        · exact List.mem_cons_self
        · exact List.mem_cons_of_mem _ ((List.takeWhile_prefix _).subset inside)
      · exact List.mem_cons_of_mem _ ((List.dropWhile_suffix _).subset (ih later))

/-- A carriage return needs an escape. -/
theorem not_mem_of_unspecial {text : Text} (unspecial : text.any isSpecial = false) : '\r' ∉ text := by
  intro member
  have special : isSpecial '\r' = true := by decide
  exact List.any_eq_false.mp unspecial _ member special

/-- A text that is not written between double quotes holds no carriage return. -/
theorem not_mem_of_style {isKey : Bool} {text : Text} (undoubled : styleOf isKey text ≠ .double) :
    '\r' ∉ text := by
  apply not_mem_of_unspecial
  rw [styleOf] at undoubled
  split at undoubled
  · next plain => simp_all [allowsPlain]
  · split at undoubled
    · next single => simp_all [allowsSingle]
    · exact absurd rfl undoubled

theorem exists_digit_of_mem_toDigits {n : Nat} {c : Char} (member : c ∈ Nat.toDigits 16 n) :
    ∃ digit < 16, c = Nat.digitChar digit := by
  induction n using Nat.strongRecOn with
  | ind n ih =>
      rw [Nat.toDigits_eq_if (by decide)] at member
      split at member
      · next small => exact ⟨n, small, List.mem_singleton.mp member⟩
      · next large =>
          rcases List.mem_append.mp member with front | last
          · exact ih (n / 16) (Nat.div_lt_self (by omega) (by decide)) front
          · exact ⟨n % 16, Nat.mod_lt n (by decide), List.mem_singleton.mp last⟩

theorem not_mem_upper (width n : Nat) : '\r' ∉ (Text.hexadecimal width n).map Char.toUpper := by
  have digits : ∀ digit < 16, (Nat.digitChar digit).toUpper ≠ '\r' := by decide
  intro member
  obtain ⟨c, inside, upper⟩ := List.mem_map.mp member
  rcases List.mem_append.mp inside with padding | numeral
  · obtain rfl := List.eq_of_mem_replicate padding
    exact absurd upper (by decide)
  · obtain ⟨digit, small, rfl⟩ := exists_digit_of_mem_toDigits numeral
    exact digits digit small upper

theorem not_mem_escape (c : Char) : '\r' ∉ escape c := by
  have letters : ∀ entry ∈ letterEscapes, entry.2 ≠ '\r' := by decide
  rw [escape]
  split
  · next letter found =>
      have other : letter ≠ '\r' := letters _ (List.mem_of_find?_eq_some found)
      simpa using Ne.symm other
  · have upper (width : Nat) := not_mem_upper width c.toNat
    simp only
    split_ifs
    · simpa using upper 2
    · simpa using upper 4
    · simpa using upper 8

/-! ### Texts -/

section

variable {pen : Pen} (clean : pen.IsClean)

include clean

theorem clean_plainText {text : Text} (unbroken : '\r' ∉ text) (mayFold : Bool) (column : Nat) :
    (plainText mayFold column text pen).IsClean := by
  have written : ∀ (parts : List Text) (pen : Pen), pen.IsClean → (∀ part ∈ parts, '\r' ∉ part) →
      (plainRuns mayFold column pen parts).IsClean := by
    intro parts pen clean unbroken
    refine List.foldlRecOn parts _ clean fun pen clean part among => ?_
    split
    · exact (clean.toColumn column).settle
    · exact clean.write (unbroken part among)
  refine written _ _ (IsClean.settle ?_) fun part among inside => unbroken (mem_of_mem_runs among inside)
  split
  · exact clean
  · exact clean.write (by decide)

theorem clean_quotedBreaks {breaks : Text} (unbroken : '\r' ∉ breaks) (column : Nat) :
    (quotedBreaks column breaks pen).IsClean := by
  refine IsClean.toColumn (List.foldlRecOn breaks _ ?_ fun pen clean c among => ?_) column
  · split
    · exact clean.endLine (by decide)
    · exact clean
  · exact clean.endLine fun same => unbroken (same ▸ among)

theorem clean_singleRuns {parts : List Text} (unbroken : ∀ part ∈ parts, '\r' ∉ part)
    (mayFold isFirst : Bool) (column : Nat) : (singleRuns mayFold column isFirst parts pen).IsClean := by
  induction parts generalizing pen isFirst with
  | nil => exact clean
  | cons part rest ih =>
      obtain ⟨here, later⟩ := List.forall_mem_cons.mp unbroken
      rw [singleRuns]
      refine ih ?_ later false
      split_ifs
      · exact clean.toColumn column
      · exact clean_quotedBreaks clean here column
      · refine clean.write fun inside => ?_
        obtain ⟨c, among, member⟩ := List.mem_flatMap.mp inside
        split at member
        · simp at member
        · exact here (List.mem_singleton.mp member ▸ among)

theorem clean_singleText {text : Text} (unbroken : '\r' ∉ text) (mayFold : Bool) (column : Nat) :
    (singleText mayFold column text pen).IsClean := by
  have opened := clean.mark (show '\r' ∉ ['\''] by decide) true false
  have inside : ∀ part ∈ runs text, '\r' ∉ part := fun part among member =>
    unbroken (mem_of_mem_runs among member)
  exact (clean_singleRuns opened inside mayFold true column).mark (by decide) false false

theorem clean_doubleContent {held : Text} (unbroken : '\r' ∉ held) (text : Text) (mayFold : Bool)
    (column length position : Nat) :
    (doubleContent mayFold column length position held text pen).IsClean := by
  induction text generalizing pen held position with
  | nil => exact clean.write unbroken
  | cons c rest ih =>
      rw [doubleContent]
      split
      · refine ih ?_ List.not_mem_nil _
        have escaped := (clean.write unbroken).write (not_mem_escape c)
        split
        · have continued := ((escaped.write (show '\r' ∉ ['\\'] by decide)).toColumn column).settle
          split
          · exact continued.write (by decide)
          · exact continued
        · exact escaped
      · next unescaped =>
          -- A carriage return is escaped, so that this character is none.
          have other : '\r' ≠ c := by
            rintro rfl
            exact unescaped (by decide)
          split
          · refine ih ?_ (by simpa using other) _
            have marked : '\r' ∉ held ++ ['\\'] := by simpa using unbroken
            have continued := ((clean.write marked).toColumn column).settle
            split
            · exact continued.write (by decide)
            · exact continued
          · exact ih clean (by simpa using ⟨unbroken, other⟩) _

theorem clean_doubleText (text : Text) (mayFold : Bool) (column : Nat) :
    (doubleText mayFold column text pen).IsClean := by
  have opened := clean.mark (show '\r' ∉ ['"'] by decide) true false
  exact (clean_doubleContent opened List.not_mem_nil text mayFold column text.length 0).mark (by decide) false
    false

theorem clean_writeText (isKey : Bool) (column : Nat) (text : Text) :
    (writeText isKey column text pen).IsClean := by
  rw [writeText]
  split
  · next plain =>
      have undoubled : styleOf isKey text ≠ .double := by rw [plain]; decide
      exact clean_plainText clean (not_mem_of_style undoubled) (!isKey) column
  · next single =>
      have undoubled : styleOf isKey text ≠ .double := by rw [single]; decide
      exact clean_singleText clean (not_mem_of_style undoubled) (!isKey) column
  · exact clean_doubleText clean text (!isKey) column

end

/-! ### Maps of lists -/

theorem clean_writeItems {pen : Pen} (clean : pen.IsClean) (column : Nat) (texts : List Text) :
    (writeItems column (texts.map .text) pen).IsClean := by
  induction texts generalizing pen with
  | nil => exact clean
  | cons text rest ih =>
      rw [List.map_cons, writeItems]
      apply ih
      exact clean_writeText ((clean.toColumn column).mark (by decide) true true) false _ text

theorem clean_writeTexts {pen : Pen} (clean : pen.IsClean) (column : Option Nat) (underKey : Bool)
    (texts : List Text) : (writeValue column underKey (.list (texts.map .text)) pen).IsClean := by
  cases texts with
  | nil => exact clean.mark (by decide) true false
  | cons text rest => exact clean_writeItems clean _ (text :: rest)

theorem clean_writeEntries {pen : Pen} (clean : pen.IsClean) {column : Nat} {entries : List (Value × Value)}
    (written : ∀ entry ∈ entries, (∃ key, entry.1 = .text key) ∧
      ∀ pen, pen.IsClean → (writeValue (some column) true entry.2 pen).IsClean) :
    (writeEntries column entries pen).IsClean := by
  induction entries generalizing pen with
  | nil => exact clean
  | cons entry rest ih =>
      obtain ⟨key, value⟩ := entry
      obtain ⟨⟨⟨key, rfl⟩, here⟩, later⟩ := List.forall_mem_cons.mp written
      have started := clean.toColumn column
      rw [writeEntries]
      refine ih (here _ ?_) later
      split
      · exact (clean_writeText started true _ _).mark (by decide) false false
      · have keyed := clean_writeText (started.mark (show '\r' ∉ ['?'] by decide) true true) false
          (foldColumn (some column)) key
        exact (keyed.toColumn column).mark (by decide) true true

theorem clean_writeMap {pen : Pen} (clean : pen.IsClean) {column : Option Nat} {underKey : Bool}
    {entries : List (Value × Value)}
    (written : ∀ entry ∈ entries, (∃ key, entry.1 = .text key) ∧
      ∀ pen, pen.IsClean → (writeValue (some (inner column)) true entry.2 pen).IsClean) :
    (writeValue column underKey (.map entries) pen).IsClean := by
  cases entries with
  | nil => exact clean.mark (by decide) true false
  | cons entry rest => exact clean_writeEntries clean written

end Printer

theorem not_mem_print (key : Text) {entries : List (Value × Value)}
    (texts : ∀ entry ∈ entries, ∃ (name : Text) (items : List Text),
      entry = (.text name, .list (items.map .text))) :
    '\r' ∉ print (.map [(.text key, .map entries)]) := by
  have blank : Pen.IsClean {} := List.not_mem_nil
  have written : (Printer.writeValue none false (.map [(.text key, .map entries)]) {}).IsClean := by
    refine Printer.clean_writeMap blank (List.forall_mem_singleton.mpr ⟨⟨key, rfl⟩, fun pen clean => ?_⟩)
    refine Printer.clean_writeMap clean fun entry member => ?_
    obtain ⟨name, items, rfl⟩ := texts entry member
    exact ⟨⟨name, rfl⟩, fun pen clean => Printer.clean_writeTexts clean _ true items⟩
  rw [print, Pen.text, List.mem_reverse]
  exact written.toColumn 0

end Yaml

end PromptTemplate
