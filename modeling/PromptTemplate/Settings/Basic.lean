import PromptTemplate.Value.Basic

set_option autoImplicit false

namespace PromptTemplate

/-- Limits and flags of an expansion. Limits are integers, since settings that were never checked may
hold any; `Settings.IsSound` says what a check guarantees. -/
structure Settings where
  /-- The most options that one bracket group may have. -/
  maxBracketOptions : Int := 10
  /-- The number of units that a preview shows. -/
  maxPreview : Int := 5
  /-- More combinations than this are announced. -/
  warnThreshold : Int := 50
  /-- More combinations than this are announced as dangerous. -/
  dangerThreshold : Int := 100
  /-- The most steps that a chain may have. -/
  maxPipelineSteps : Int := 15
  /-- Whether blank runs in units from brackets are collapsed. -/
  trimWhitespace : Bool := true
  /-- Whether more combinations than the danger threshold are refused. -/
  enforceThresholds : Bool := false
  /-- The price of one unit as it was given, a number once the settings are checked. -/
  perUnitCost : Option Value := none

namespace Settings

/-- A price that a check accepts: none, or a number that is not below zero. -/
def HasSoundCost (settings : Settings) : Prop :=
  settings.perUnitCost = none ∨
    ∃ price : Float, settings.perUnitCost = some (.float price) ∧ (price < 0.0) = false

/-- What checked settings guarantee: positive limits, ordered thresholds and a sound price. -/
structure IsSound (settings : Settings) : Prop where
  maxBracketOptions_pos : 1 ≤ settings.maxBracketOptions
  maxPreview_pos : 1 ≤ settings.maxPreview
  warnThreshold_pos : 1 ≤ settings.warnThreshold
  dangerThreshold_pos : 1 ≤ settings.dangerThreshold
  maxPipelineSteps_pos : 1 ≤ settings.maxPipelineSteps
  thresholds_ordered : settings.warnThreshold ≤ settings.dangerThreshold
  cost_sound : settings.HasSoundCost

end Settings

end PromptTemplate
