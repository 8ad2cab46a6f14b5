import PromptTemplate.Formula.Parser.Basic

set_option autoImplicit false

namespace PromptTemplate.Formula.Parser

/-- What has been read of some parameters. -/
structure ParameterState where
  /-- Whether there is a parameter. -/
  hasAny : Bool := false
  hasSlash : Bool := false
  hasStar : Bool := false
  /-- Whether a star without a name still waits for a parameter. -/
  starWaits : Bool := false
  /-- Whether a parameter in front of the star has a standard value. -/
  hasStandard : Bool := false
  /-- Whether nothing may follow. -/
  isClosed : Bool := false
  /-- Whether a comma has been read behind the last parameter. -/
  isOpen : Bool := true

/-- How parameters are written: in front of what they end, and whether they have annotations. -/
structure ParameterStyle where
  closing : String
  annotated : Bool

def annotation (inner : Inner) (style : ParameterStyle) (mayStar : Bool) : Reader Unit := do
  if style.annotated then
    if ← accept ":" then
      if mayStar then
        if ← accept "*" then
          discard (inner .operand)
          return
      discard (inner .choice)

def parameter (inner : Inner) (style : ParameterStyle) (state : ParameterState) :
    Reader ParameterState := do
  if state.isClosed then unexpected
  if ← accept "/" then
    if !state.hasAny || state.hasSlash || state.hasStar then unexpected
    return { state with hasSlash := true }
  else if ← accept "**" then
    if state.starWaits then unexpected
    discard identifier
    annotation inner style false
    return { state with isClosed := true }
  else if ← accept "*" then
    if state.hasStar then unexpected
    if ← atSymbol "," then return { state with hasStar := true, starWaits := true }
    else
      discard identifier
      annotation inner style true
      return { state with hasStar := true }
  else
    discard identifier
    annotation inner style false
    if ← accept "=" then
      discard (inner .choice)
      return { state with hasAny := true, starWaits := false,
                          hasStandard := state.hasStandard || !state.hasStar }
    else
      if state.hasStandard && !state.hasStar then unexpected
      return { state with hasAny := true, starWaits := false }

def parameters (inner : Inner) (style : ParameterStyle) : Reader Unit := do
  let step (state : ParameterState) : Reader (Option ParameterState) := do
    if ← atSymbol style.closing then return none
    if !state.isOpen then unexpected
    let next ← parameter inner style state
    let isOpen ← accept ","
    return some { next with isOpen }
  let state ← loop step {}
  if state.starWaits then unexpected

end PromptTemplate.Formula.Parser
