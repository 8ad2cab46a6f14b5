import PromptTemplate.Expansion.Unit

set_option autoImplicit false

namespace PromptTemplate

def Begins (word message : String) : Prop :=
  word.toList <+: message.toList

/-- What the messages of a prompt with a number of combinations announce: the number is dangerous above the danger
threshold, many above the warn threshold and up to the danger threshold, and of no other number is any such thing
said. -/
structure Settings.Announces (settings : Settings) (count : Nat) (messages : List String) : Prop where
  danger_iff : s!"DANGER: {count} combinations will use significant credits!" ∈ messages ↔
    settings.dangerThreshold < count
  many_iff : s!"WARNING: {count} combinations detected" ∈ messages ↔
    settings.warnThreshold < count ∧ (count : Int) ≤ settings.dangerThreshold
  danger_only : ∀ message ∈ messages, Begins "DANGER" message →
    message = s!"DANGER: {count} combinations will use significant credits!"
  many_only : ∀ message ∈ messages, Begins "WARNING" message →
    message = s!"WARNING: {count} combinations detected"
  exclusive : ∀ message ∈ messages, ∀ other ∈ messages, Begins "DANGER" message → ¬ Begins "WARNING" other

namespace Warning

theorem head?_toList_append {lead : String} {c : Char} (first : lead.toList.head? = some c) (rest : String) :
    (lead ++ rest).toList.head? = some c := by
  rw [String.toList_append, List.head?_append, first]
  rfl

theorem head?_of_begins {word message : String} {c : Char} (first : word.toList.head? = some c)
    (begins : Begins word message) : message.toList.head? = some c := by
  obtain ⟨rest, whole⟩ := begins
  rw [← whole, List.head?_append, first]
  rfl

/-- The first letters tell the three warnings about combinations apart. -/
def initial : Warning → Option Char
  | .danger _ => some 'D'
  | .many _ => some 'W'
  | .crossed _ => some 'C'
  | _ => none

theorem head?_message {warning : Warning} {c : Char} (known : warning.initial = some c) :
    warning.message.toList.head? = some c := by
  cases warning with
  | danger total => exact known ▸ head?_toList_append (head?_toList_append rfl _) _
  | many total => exact known ▸ head?_toList_append (head?_toList_append rfl _) _
  | crossed names => exact known ▸ head?_toList_append (head?_toList_append rfl _) _
  | unusedVariants step variants => cases known
  | longChain steps => cases known
  | costlyChain steps => cases known
  | atStep index warning => cases known

end Warning

namespace Selection

/-- Everything that is said about a number of combinations. -/
theorem mem_warnings {settings : Settings} {total : Int} {names : Nat} {warning : Warning} :
    warning ∈ warnings settings total names ↔
      (warning = .danger total ∧ settings.dangerThreshold < total) ∨
      (warning = .many total ∧ settings.warnThreshold < total ∧ total ≤ settings.dangerThreshold) ∨
      (warning = .crossed names ∧ 1 < names) := by
  rw [warnings, List.mem_append, ← or_assoc]
  apply or_congr
  · rw [thresholdWarnings]
    split
    · next dangerous => simp [dangerous, Int.not_le.mpr dangerous]
    · next harmless =>
        have below : total ≤ settings.dangerThreshold := by omega
        split
        · next many => simp [harmless, many, below]
        · next few => simp [harmless, few]
  · split
    · next several => simp [several]
    · next one => simp [one]

variable (settings : Settings) (count names : Nat)

/-- A message about combinations is known by its first letter. -/
theorem message_of_head? {message : String} (member : message ∈ (warnings settings count names).map Warning.message) :
    (message.toList.head? = some 'D' →
        message = Warning.message (.danger count) ∧ settings.dangerThreshold < count) ∧
      (message.toList.head? = some 'W' → message = Warning.message (.many count) ∧
        settings.warnThreshold < count ∧ (count : Int) ≤ settings.dangerThreshold) := by
  obtain ⟨warning, among, rfl⟩ := List.mem_map.mp member
  rcases mem_warnings.mp among with ⟨rfl, above⟩ | ⟨rfl, between⟩ | ⟨rfl, _⟩
  · rw [Warning.head?_message rfl]
    exact ⟨fun _ => ⟨rfl, above⟩, by simp⟩
  · rw [Warning.head?_message rfl]
    exact ⟨by simp, fun _ => ⟨rfl, between⟩⟩
  · rw [Warning.head?_message rfl]
    exact ⟨by simp, by simp⟩

theorem announces_warnings : settings.Announces count ((warnings settings count names).map Warning.message) where
  danger_iff := by
    constructor
    · intro member
      have first : (Warning.message (.danger count)).toList.head? = some 'D' := Warning.head?_message rfl
      exact ((message_of_head? settings count names member).1 first).2
    · intro above
      exact List.mem_map.mpr ⟨.danger count, mem_warnings.mpr (Or.inl ⟨rfl, above⟩), rfl⟩
  many_iff := by
    constructor
    · intro member
      have first : (Warning.message (.many count)).toList.head? = some 'W' := Warning.head?_message rfl
      exact ((message_of_head? settings count names member).2 first).2
    · intro between
      exact List.mem_map.mpr ⟨.many count, mem_warnings.mpr (Or.inr (Or.inl ⟨rfl, between⟩)), rfl⟩
  danger_only := by
    intro message member begins
    exact ((message_of_head? settings count names member).1 (Warning.head?_of_begins rfl begins)).1
  many_only := by
    intro message member begins
    exact ((message_of_head? settings count names member).2 (Warning.head?_of_begins rfl begins)).1
  exclusive := by
    intro message member other among dangerous many
    have above := ((message_of_head? settings count names member).1 (Warning.head?_of_begins rfl dangerous)).2
    have below := ((message_of_head? settings count names among).2 (Warning.head?_of_begins rfl many)).2.2
    omega

end Selection

end PromptTemplate
