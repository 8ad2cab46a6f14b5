import PromptTemplate.Bracket.Basic
import PromptTemplate.Chain.Steps
import PromptTemplate.Reference

set_option autoImplicit false

namespace PromptTemplate

/-- A cause for which an expansion is refused. -/
inductive Issue where
  | bracket (fault : Bracket.Fault)
  | chain (fault : Chain.Fault)
  | noUsableOption
  | tooManyOptions (count : Nat) (limit : Int)
  | missing (names : List Text)
  | tooManyCombinations (total : Nat) (limit : Int)
  | atStep (index : Nat) (issue : Issue)
  deriving DecidableEq, Repr

def stepLead (index : Nat) : String :=
  s!"Step {index}: "

namespace Issue

def kind : Issue → DiagnosticKind
  | .bracket _ | .chain _ | .noUsableOption => .malformed
  | .tooManyOptions _ _ | .tooManyCombinations _ _ => .overflow
  | .missing _ => .unresolved
  | .atStep _ issue => issue.kind

def tokenList (names : List Text) : String :=
  ", ".intercalate (names.map fun name => String.ofList (Reference.token name))

def diagnostic : Issue → Diagnostic
  | .bracket fault => ⟨.malformed, fault.message, some fault.suggestion⟩
  | .chain fault => ⟨.malformed, fault.message, some fault.suggestion⟩
  | .noUsableOption =>
    ⟨.malformed, "Brackets contain no usable options",
      some "Add options inside brackets: [option1, option2]"⟩
  | .tooManyOptions count limit =>
    ⟨.overflow, s!"Too many bracket options: {count} (max {limit})",
      some "Remove options or split the prompt"⟩
  | .missing names =>
    ⟨.unresolved, "Missing wild cards: " ++ tokenList names,
      some "Create these wild cards or remove them from the prompt"⟩
  | .tooManyCombinations total limit =>
    ⟨.overflow, s!"Too many combinations: {total} (limit {limit})",
      some "Shorten the wild card lists or use fewer wild cards in one prompt"⟩
  | .atStep index issue => issue.diagnostic.within (stepLead index)

/-- Whether the words for an issue can be written, which takes a numeral for each number in them. -/
def isWritable : Issue → Bool
  | .bracket _ | .noUsableOption | .missing _ => true
  | .chain fault => fault.isWritable
  | .tooManyOptions count limit | .tooManyCombinations count limit =>
    Text.hasNumeral count && Text.hasNumeral limit
  | .atStep index issue => Text.hasNumeral index && issue.isWritable

theorem isWritable_atStep (index : Nat) (issue : Issue) :
    (atStep index issue).isWritable = (Text.hasNumeral index && issue.isWritable) := by
  rw [isWritable]

theorem kind_diagnostic (issue : Issue) : issue.diagnostic.kind = issue.kind := by
  induction issue with
  | atStep index issue ih => exact ih
  | _ => rfl

end Issue

/-- A remark on a prompt that is expanded. -/
inductive Warning where
  | danger (total : Int)
  | many (total : Int)
  | crossed (names : Nat)
  | unusedVariants (step variants : Nat)
  | longChain (steps : Nat)
  | costlyChain (steps : Nat)
  | atStep (index : Nat) (warning : Warning)
  deriving DecidableEq, Repr

def Warning.message : Warning → String
  | .danger total => s!"DANGER: {total} combinations will use significant credits!"
  | .many total => s!"WARNING: {total} combinations detected"
  | .crossed names => s!"Cross-combination: {names} wild cards combined"
  | .unusedVariants step variants =>
    s!"Step {step} has {variants} variations but only first will be used in pipeline"
  | .longChain steps => s!"Long pipeline detected: {steps} steps may take significant time"
  | .costlyChain steps => s!"{steps}-step pipeline will use {steps} generations"
  | .atStep index warning => stepLead index ++ warning.message

def Warning.isWritable : Warning → Bool
  | .danger total | .many total => Text.hasNumeral total
  | .crossed count | .longChain count | .costlyChain count => Text.hasNumeral count
  | .unusedVariants step variants => Text.hasNumeral step && Text.hasNumeral variants
  | .atStep index warning => Text.hasNumeral index && warning.isWritable

theorem Warning.isWritable_atStep (index : Nat) (warning : Warning) :
    (atStep index warning).isWritable = (Text.hasNumeral index && warning.isWritable) := by
  rw [isWritable]

end PromptTemplate
