import PromptTemplate.Cost.Estimate

set_option autoImplicit false

namespace PromptTemplate

namespace Value

/-- A map with text keys, in the given order. -/
def record (fields : List (String × Value)) : Value :=
  .map (fields.map fun field => (.text field.1.toList, field.2))

def ofTexts (texts : List Text) : Value :=
  .list (texts.map Value.text)

def ofText? : Option Text → Value
  | some content => .text content
  | none => .null

end Value

def Diagnostic.document (diagnostic : Diagnostic) : Value :=
  .record [("kind", .text diagnostic.kind.label.toList),
    ("message", .text diagnostic.message.toList),
    ("suggestion", .ofText? (diagnostic.suggestion.map String.toList))]

/-- A step as a value. Of its outcome it shows how many units there are, and the first. -/
def Step.document (step : Step) : Value :=
  .record [("index", .int step.index), ("text", .text step.text),
    ("variants", .int step.outcome.units.length), ("first_variant", .ofText? step.firstVariant?)]

/-- An expansion as a value. Names and steps are shown if there are any. -/
def Expansion.document (expansion : Expansion) : Value :=
  .record ([("is_valid", .bool expansion.isValid), ("is_pipeline", .bool expansion.isPipeline),
    ("original_prompt", .text expansion.prompt), ("units", .ofTexts expansion.units),
    ("preview_count", .int expansion.previewCount), ("total_count", .int expansion.totalCount),
    ("warnings", .ofTexts (expansion.warnings.map (·.message.toList))),
    ("errors", .list (expansion.diagnostics.map Diagnostic.document))] ++
    (if expansion.names.isEmpty then [] else [("wildcard_names", .ofTexts expansion.names)]) ++
    (if expansion.steps.isEmpty then [] else [("steps", .list (expansion.steps.map Step.document))]))

def CostLine.document (line : CostLine) : Value :=
  .record [("index", .int line.index), ("cost", .float line.cost),
    ("source_text", .text line.sourceText)]

def Estimate.document (estimate : Estimate) : Value :=
  .record [("total_cost", .float estimate.totalCost), ("per_unit", .float estimate.perUnit),
    ("unit_count", .int estimate.unitCount),
    ("breakdown", .list (estimate.breakdown.map CostLine.document))]

end PromptTemplate
