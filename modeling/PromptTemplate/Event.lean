import PromptTemplate.Catalog.Name
import PromptTemplate.Catalog.Resolution
import PromptTemplate.Expansion.Basic

set_option autoImplicit false

namespace PromptTemplate

inductive Severity where
  | debug
  | warning
  deriving DecidableEq, Repr

/-- Something worth noting. -/
inductive Event where
  | classified (label : String)
  | classifiedChain (steps : Nat)
  | combined (names total : Nat)
  | chainRefused (issues : Nat)
  | refused (issue : Issue)
  | expanded (label : String) (isValid : Bool) (total : Nat)
  | standsForItself (name : Text)
  | skippedFile (fileName : Text) (fault : Name.Fault)
  deriving DecidableEq, Repr

namespace Event

/-- Only what a user should look at is a warning. -/
def severity : Event → Severity
  | .standsForItself _ | .skippedFile _ _ => .warning
  | _ => .debug

/-- The part of the program that an event is noted by. -/
def source : Event → String
  | .classified _ | .classifiedChain _ => "promptexpand.kinds"
  | .combined _ _ => "promptexpand.combinations"
  | .chainRefused _ => "promptexpand.pipeline"
  | .refused _ | .expanded _ _ _ => "promptexpand.engine"
  | .standsForItself _ => "promptexpand.wildcards"
  | .skippedFile _ _ => "promptexpand.catalog"

def message : Event → String
  | .classified label => "classified prompt as " ++ label
  | .classifiedChain steps => s!"classified prompt as Pipeline with {steps} steps"
  | .combined names total => s!"{names} wild cards -> {total} combinations"
  | .chainRefused issues => s!"pipeline rejected: {issues} step errors"
  | .refused issue => "rejected prompt: " ++ issue.diagnostic.message
  | .expanded label isValid total =>
    "expanded " ++ label ++ " prompt: valid=" ++ (if isValid then "True" else "False") ++
      s!" total={total}"
  | .standsForItself name =>
    "wild card '" ++ String.ofList (Reference.token name) ++ "' not found or empty, using its name"
  | .skippedFile fileName fault => "skipping " ++ String.ofList fileName ++ ": " ++ fault.message

def line (event : Event) : String :=
  (match event.severity with
    | .debug => "DEBUG"
    | .warning => "WARNING") ++ " " ++ event.source ++ ": " ++ event.message

end Event

def Kind.events : Kind → List Event
  | .single unit => [.classified unit.label]
  | .chain _ steps => [.classifiedChain steps.length]

/-- What is noted when a unit is expanded: how many selections there are, if they were counted. -/
def Outcome.events {κ : Type} (outcome : Outcome κ) : List Event :=
  if outcome.names.isEmpty then []
  else match outcome.issues with
    | [] => [.combined outcome.names.length outcome.totalCount]
    | .tooManyCombinations total _ :: _ => [.combined outcome.names.length total]
    | _ => []

def Expansion.events (expansion : Expansion) : List Event :=
  match expansion.kind with
  | none => expansion.issues.map .refused
  | some kind =>
    let counted := match kind with
      | .single _ => expansion.toOutcome.events
      | .chain _ _ =>
        expansion.steps.flatMap (·.outcome.events) ++
          (if expansion.issues.isEmpty then [] else [.chainRefused expansion.issues.length])
    kind.events ++ counted ++ [.expanded kind.label expansion.isValid expansion.totalCount]

/-- What is noted when names stand for themselves, once for each missing name. -/
def Resolution.events (fallback : Bool) (resolution : Resolution) : List Event :=
  if fallback then resolution.missing.map .standsForItself else []

end PromptTemplate
