import PromptTemplate.Catalog.Unchecked
import PromptTemplate.Expansion.Chain

set_option autoImplicit false

namespace PromptTemplate

def Kind.expand (settings : Settings) (catalog : Catalog) : Kind → Expansion
  | .single unit => .ofUnit (unit.expand settings catalog)
  | .chain text steps => Chain.expand settings catalog text steps

def Expansion.unread (prompt : Text) (issue : Issue) : Expansion :=
  { toOutcome := .refused prompt [issue], isPipeline := prompt.contains Chain.bar }

/-- The expansion of a prompt over a catalog. Every failure is an expansion without units. -/
def expand (settings : Settings) (catalog : Catalog) (prompt : Text) : Expansion :=
  match Kind.ofText? settings.maxPipelineSteps prompt with
  | .error issue => .unread prompt issue
  | .ok kind => kind.expand settings catalog

def expandUnit (settings : Settings) (catalog : Catalog) (text : Text) : Outcome UnitKind :=
  match UnitKind.ofText? text with
  | .error fault => .refused text [.bracket fault]
  | .ok kind => kind.expand settings catalog

/-- The expansion of a text as a chain if it holds a bar, and as one unit if not. -/
def expandChain (settings : Settings) (catalog : Catalog) (text : Text) : Expansion :=
  if text.contains Chain.bar then
    match Kind.ofText? settings.maxPipelineSteps text with
    | .error issue => { toOutcome := .refused text [issue], isPipeline := true }
    | .ok kind => kind.expand settings catalog
  else .ofUnit (expandUnit settings catalog text)

section

variable (settings : Settings) (source : Value) (text : Text)

/-- The expansion of a prompt over a value that is checked first, before the prompt is read. -/
def expandOver? : Except Catalog.Fault Expansion :=
  (Catalog.ofValue? source).map fun catalog => expand settings catalog text

/-- The expansion of a text as a chain or as one unit, over a value as it stands. -/
def expandChainOver? : Except UncheckedCatalog.Fault Expansion :=
  UncheckedCatalog.expansion? source fun catalog => expandChain settings catalog text

/-- The expansion of a text as one unit, over a value as it stands. -/
def expandUnitOver? : Except UncheckedCatalog.Fault Expansion :=
  UncheckedCatalog.expansion? source fun catalog => .ofUnit (expandUnit settings catalog text)

end

end PromptTemplate
