import PromptTemplate.Cost.Price
import PromptTemplate.Settings.Basic

set_option autoImplicit false

namespace PromptTemplate.Settings

inductive Field where
  | maxBracketOptions
  | maxPreview
  | warnThreshold
  | dangerThreshold
  | maxPipelineSteps
  | trimWhitespace
  | enforceThresholds
  | perUnitCost
  deriving DecidableEq, Repr

def Field.name : Field → String
  | .maxBracketOptions => "max_bracket_options"
  | .maxPreview => "max_preview"
  | .warnThreshold => "warn_threshold"
  | .dangerThreshold => "danger_threshold"
  | .maxPipelineSteps => "max_pipeline_steps"
  | .trimWhitespace => "trim_whitespace"
  | .enforceThresholds => "enforce_thresholds"
  | .perUnitCost => "per_unit_cost"

/-- The fields that hold limits, in the order in which they are checked. -/
def Field.limits : List Field :=
  [.maxBracketOptions, .maxPreview, .warnThreshold, .dangerThreshold, .maxPipelineSteps]

/-- The fields that hold flags, in the order in which they are checked. -/
def Field.flags : List Field :=
  [.trimWhitespace, .enforceThresholds]

def Field.all : List Field :=
  Field.limits ++ Field.flags ++ [.perUnitCost]

def Field.aliases : List (String × Field) :=
  [("maxBracketOptions", .maxBracketOptions), ("maxOptions", .maxBracketOptions),
    ("maxPreview", .maxPreview), ("warnThreshold", .warnThreshold),
    ("dangerThreshold", .dangerThreshold), ("maxPipelineSteps", .maxPipelineSteps),
    ("trimWhitespace", .trimWhitespace), ("enforceThresholds", .enforceThresholds),
    ("perUnitCost", .perUnitCost)]

def Field.ofKey? (key : Text) : Option Field :=
  match Field.aliases.find? (·.1.toList == key) with
  | some (_, field) => some field
  | none => Field.all.find? (·.name.toList == key)

/-- Why a value holds no settings. -/
inductive Fault where
  | noMap (typeName : String)
  | unknownKey (key : Value)
  | noInteger (field : Field) (value : Value)
  | notPositive (field : Field) (value : Int)
  | noFlag (field : Field) (value : Value)
  | price (fault : Price.Fault)
  | thresholdsReversed (warn danger : Int)

/-- The words for a fault, if it is reported in words. -/
def Fault.message? : Fault → Option String
  | .noMap typeName => some ("config must be a mapping, got " ++ typeName)
  | .unknownKey key => some ("unknown config key: " ++ String.ofList key.quoted)
  | .noInteger field value =>
    some (field.name ++ " must be an integer, got " ++ String.ofList value.quoted)
  | .notPositive field value => some (field.name ++ " must be >= 1, got " ++ toString value)
  | .noFlag field value =>
    some (field.name ++ " must be true or false, got " ++ String.ofList value.quoted)
  | .price fault => fault.message?
  | .thresholdsReversed warn danger =>
    some s!"warn_threshold ({warn}) must not exceed danger_threshold ({danger})"

/-- The values of the fields that a map names, the last value of each. -/
def fieldsOf? (given : Assoc Field Value) : List (Value × Value) → Except Fault (Assoc Field Value)
  | [] => .ok given
  | (key, value) :: rest =>
    match Field.ofKey? key.plain with
    | none => .error (.unknownKey key)
    | some field => fieldsOf? (given.insert field value) rest

def checkLimit (given : Assoc Field Value) (field : Field) : Except Fault Unit :=
  match given.get? field with
  | none => .ok ()
  | some (.int n) => if n < 1 then .error (.notPositive field n) else .ok ()
  | some value => .error (.noInteger field value)

def checkFlag (given : Assoc Field Value) (field : Field) : Except Fault Unit :=
  match given.get? field with
  | none | some (.bool _) => .ok ()
  | some value => .error (.noFlag field value)

def priceOf? (given : Assoc Field Value) (formula : Formula.Evaluator := Formula.evaluate) :
    Except Fault (Option Value) :=
  match given.get? .perUnitCost with
  | none | some .null => .ok none
  | some value =>
    match Price.ofValue value formula with
    | .error fault => .error (.price fault)
    | .ok price => .ok (some (.float price))

def limitOr (given : Assoc Field Value) (field : Field) (standard : Int) : Int :=
  match given.get? field with
  | some (.int n) => n
  | _ => standard

def flagOr (given : Assoc Field Value) (field : Field) (standard : Bool) : Bool :=
  match given.get? field with
  | some (.bool b) => b
  | _ => standard

/-- The settings with given values in place of the standard ones. -/
def ofFields (given : Assoc Field Value) (price : Option Value) : Settings :=
  let standard : Settings := {}
  { maxBracketOptions := limitOr given .maxBracketOptions standard.maxBracketOptions
    maxPreview := limitOr given .maxPreview standard.maxPreview
    warnThreshold := limitOr given .warnThreshold standard.warnThreshold
    dangerThreshold := limitOr given .dangerThreshold standard.dangerThreshold
    maxPipelineSteps := limitOr given .maxPipelineSteps standard.maxPipelineSteps
    trimWhitespace := flagOr given .trimWhitespace standard.trimWhitespace
    enforceThresholds := flagOr given .enforceThresholds standard.enforceThresholds
    perUnitCost := price }

/-- Refuses a warning threshold above the danger threshold. -/
def checkThresholds (settings : Settings) : Except Fault Settings :=
  if settings.dangerThreshold < settings.warnThreshold then
    .error (.thresholdsReversed settings.warnThreshold settings.dangerThreshold)
  else .ok settings

def ofPairs? (pairs : List (Value × Value)) (formula : Formula.Evaluator := Formula.evaluate) :
    Except Fault Settings := do
  let given ← fieldsOf? [] pairs
  Field.limits.forM (checkLimit given)
  Field.flags.forM (checkFlag given)
  let price ← priceOf? given formula
  checkThresholds (ofFields given price)

/-- The settings that a value holds. Nothing holds the standard ones. -/
def ofValue? (value : Value) (formula : Formula.Evaluator := Formula.evaluate) : Except Fault Settings :=
  match value with
  | .null => .ok {}
  | .map pairs => ofPairs? pairs formula
  | value => .error (.noMap value.typeName)

def toPairs (settings : Settings) : List (Value × Value) :=
  [(.text Field.maxBracketOptions.name.toList, .int settings.maxBracketOptions),
    (.text Field.maxPreview.name.toList, .int settings.maxPreview),
    (.text Field.warnThreshold.name.toList, .int settings.warnThreshold),
    (.text Field.dangerThreshold.name.toList, .int settings.dangerThreshold),
    (.text Field.maxPipelineSteps.name.toList, .int settings.maxPipelineSteps),
    (.text Field.trimWhitespace.name.toList, .bool settings.trimWhitespace),
    (.text Field.enforceThresholds.name.toList, .bool settings.enforceThresholds),
    (.text Field.perUnitCost.name.toList, settings.perUnitCost.getD .null)]

/-- The settings with changes. A change under the name of a setting takes the place of its value; one
under another spelling comes behind all names. -/
def replace? (settings : Settings) (changes : List (Text × Value)) (formula : Formula.Evaluator := Formula.evaluate) :
    Except Fault Settings :=
  let merged := changes.foldl (fun pairs change =>
    Assoc.insertBy Value.sameKey pairs (.text change.1) change.2) settings.toPairs
  ofPairs? merged formula

end PromptTemplate.Settings
