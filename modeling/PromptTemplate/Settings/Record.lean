import PromptTemplate.Settings.Reading

set_option autoImplicit false

namespace PromptTemplate.Settings

/-- The value of a field. Where no price is set, it is nothing. -/
def value (settings : Settings) : Field → Value
  | .maxBracketOptions => .int settings.maxBracketOptions
  | .maxPreview => .int settings.maxPreview
  | .warnThreshold => .int settings.warnThreshold
  | .dangerThreshold => .int settings.dangerThreshold
  | .maxPipelineSteps => .int settings.maxPipelineSteps
  | .trimWhitespace => .bool settings.trimWhitespace
  | .enforceThresholds => .bool settings.enforceThresholds
  | .perUnitCost => settings.perUnitCost.getD .null

/-- Writes changes into a map. A present key keeps its place; a new one goes behind all others. -/
def merge (pairs : List (Value × Value)) (changes : List (Text × Value)) : List (Value × Value) :=
  changes.foldl (fun pairs change => Assoc.insertBy Value.sameKey pairs (.text change.1) change.2) pairs

abbrev Record := Field → Value

namespace Record

/-- Puts the number that a given price comes to in its place. Where nothing is given as the price, nothing is read. -/
def readPrice? (given : Assoc Field Value) (formula : Formula.Evaluator := Formula.evaluate) :
    Except Fault (Assoc Field Value) :=
  match given.get? .perUnitCost with
  | none | some .null => .ok given
  | some value =>
    match Price.ofValue value formula with
    | .error fault => .error (.price fault)
    | .ok price => .ok (given.insert .perUnitCost (.float price))

/-- The given values, and the standard ones where none is given. -/
def ofFields (given : Assoc Field Value) : Record :=
  fun field => (given.get? field).getD (Settings.value {} field)

/-- Refuses a warning threshold above the danger threshold. Other values than integers have been refused before. -/
def checkThresholds (record : Record) : Except Fault Record :=
  match record .warnThreshold, record .dangerThreshold with
  | .int warn, .int danger =>
    if danger < warn then .error (.thresholdsReversed warn danger) else .ok record
  | _, _ => .ok record

def ofPairs? (pairs : List (Value × Value)) (formula : Formula.Evaluator := Formula.evaluate) :
    Except Fault Record := do
  let given ← fieldsOf? [] pairs
  Field.limits.forM (checkLimit given)
  Field.flags.forM (checkFlag given)
  let given ← readPrice? given formula
  checkThresholds (ofFields given)

/-- The record that a value describes. Nothing describes the standard one. -/
def ofValue? (value : Value) (formula : Formula.Evaluator := Formula.evaluate) : Except Fault Record :=
  match value with
  | .null => .ok (Settings.value {})
  | .map pairs => ofPairs? pairs formula
  | value => .error (.noMap value.typeName)

def toPairs (record : Record) : List (Value × Value) :=
  Field.all.map fun field => (.text field.name.toList, record field)

def replace? (record : Record) (changes : List (Text × Value)) (formula : Formula.Evaluator := Formula.evaluate) :
    Except Fault Record :=
  ofPairs? (merge record.toPairs changes) formula

end Record

end PromptTemplate.Settings
