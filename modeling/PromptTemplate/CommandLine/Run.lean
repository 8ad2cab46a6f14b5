import PromptTemplate.CommandLine.Arguments
import PromptTemplate.Document
import PromptTemplate.Host

set_option autoImplicit false

namespace PromptTemplate.CommandLine

def linesText (lines : List Text) : Text :=
  lines.flatMap (· ++ ['\n'])

/-- What a run comes to: its exit code, the texts for the output one after the other, and the lines to be said beside
the output. -/
structure Report where
  exit : Nat
  texts : List Text := []
  remarks : List String := []
  deriving DecidableEq, Repr

/-- What has been written: the output, and the lines beside it. -/
structure Transcript where
  output : Text := []
  remarks : List String := []
  deriving DecidableEq, Repr

def Transcript.remarksText (transcript : Transcript) : Text :=
  linesText (transcript.remarks.map String.toList)

inductive Breakage where
  | load (failure : Failure LoadFault)
  /-- A prompt that cannot be read for a reason that cannot be written. -/
  | check (issue : Issue)
  | expansion (failure : Expansion.Failure)
  | estimate (failure : Estimate.Failure)
  | print (document : Value)
  /-- A text that the stream of the output does not take. -/
  | output (text : Text)

/-- The words for what breaks a run off, if it is reported in words. -/
def Breakage.message? : Breakage → Option String
  | .load failure => failure.message? LoadFault.message?
  | .estimate failure => failure.message?
  | .check _ | .expansion _ | .print _ | .output _ => none

/-- The lines for events: all of them on request, otherwise those that a user should look at. -/
def notes (verbose : Bool) (events : List Event) : List String :=
  (events.filter fun event => verbose || event.severity == .warning).map Event.line

/-- Only reads the prompt, and says whether it can be read. -/
def validate (arguments : Arguments) (noted : List String) (settings : Settings) : Report :=
  match Kind.ofText? settings.maxPipelineSteps arguments.prompt with
  | .ok kind =>
    { exit := 0
      texts := ["valid\n".toList]
      remarks := noted ++ notes arguments.verbose kind.events }
  | .error issue =>
    let diagnostic := issue.diagnostic
    let hint := match diagnostic.suggestion with
      | some suggestion => if suggestion.isEmpty then [] else ["  hint: " ++ suggestion]
      | none => []
    { exit := 1
      texts := (("invalid: " ++ diagnostic.message) :: hint).map fun line => line.toList ++ ['\n']
      remarks := noted }

def costLine (estimate : Estimate) : String :=
  let amount (price : Float) : String := String.ofList (Decimal.brief.render price)
  s!"cost: {amount estimate.totalCost} ({estimate.unitCount} x {amount estimate.perUnit})"

/-- What is said about an expansion beside the output. -/
def remarksOn (expansion : Expansion) (estimate : Option Estimate) : List String :=
  (if expansion.isPipeline then [expansion.describe] else []) ++
    expansion.warnings.map ("warning: " ++ ·.message) ++
    expansion.diagnostics.map ("error: " ++ ·.render) ++
    (estimate.map costLine).toList

/-- The prompts that are written: those to run, in order, or all units. A step without units has the mark for nothing. -/
def promptLines (execution : Bool) (expansion : Expansion) : List Text :=
  if execution then expansion.executionPrompts.map fun prompt => prompt.getD Value.null.plain
  else expansion.units

def document (expansion : Expansion) (estimate : Option Estimate) : Value :=
  .record (("result", expansion.document) ::
    (estimate.map fun estimate => ("cost", estimate.document)).toList)

def present (host : Host) (arguments : Arguments) (expansion : Expansion) (estimate : Option Estimate) :
    Except Breakage Report :=
  let exit := if expansion.isValid then 0 else 1
  if arguments.yaml then
    match host.print (document expansion estimate) with
    | some text => .ok { exit, texts := [text] }
    | none => .error (.print (document expansion estimate))
  else
    .ok
      { exit
        texts := (promptLines arguments.execution expansion).map (· ++ ['\n'])
        remarks := remarksOn expansion estimate }

/-- Steps of a run. What they write is out at once, and stays there when a later one breaks the run off. -/
abbrev Session (α : Type) := EStateM Breakage Transcript α

namespace Session

variable (host : Host) (arguments : Arguments)

/-- Writes a text to the output, if the stream takes it. -/
def write (text : Text) : Session Unit := do
  let transcript ← get
  if host.takes transcript.output text then set { transcript with output := transcript.output ++ text }
  else throw (.output text)

/-- Writes a line beside the output. -/
def remark (line : String) : Session Unit :=
  modify fun transcript => { transcript with remarks := transcript.remarks ++ [line] }

/-- Writes lines beside the output for the events that are to be seen. -/
def note (verbose : Bool) (events : List Event) : Session Unit :=
  (notes verbose events).forM remark

/-- Ends with words on a failure, or breaks off if there are none. -/
def refuse (breakage : Breakage) : Session Nat :=
  match breakage.message? with
  | some message => do
    remark ("error: " ++ message)
    return 2
  | none => throw breakage

/-- Settings are loaded. Without a path the standard ones hold. -/
def settingsOf : Except (Failure LoadFault) Settings :=
  match arguments.config with
  | some path => host.settings path
  | none => .ok {}

/-- A catalog is loaded. Without a path there is none. -/
def catalogOf : Host.Listing :=
  match arguments.catalog with
  | some path => host.catalog path
  | none => { result := .ok [] }

/-- Writes a report, text by text. -/
def put (report : Report) : Session Nat := do
  report.texts.forM (write host)
  report.remarks.forM remark
  return report.exit

/-- Says whether the prompt can be read, if the reason why it cannot is one to be written. -/
def check (settings : Settings) : Session Nat :=
  match Kind.ofText? settings.maxPipelineSteps arguments.prompt with
  | .error issue => if issue.isWritable then put host (validate arguments [] settings) else throw (.check issue)
  | .ok _ => put host (validate arguments [] settings)

def expandAndPresent (settings : Settings) (catalog : Catalog) : Session Nat := do
  match evaluate settings catalog arguments.prompt with
  | .error failure => throw (.expansion failure)
  | .ok expansion =>
    note arguments.verbose expansion.events
    match expansion.bill host.room host.formula settings (arguments.cost.map .text) with
    | .error failure => refuse (.estimate failure)
    | .ok estimate =>
      match present host arguments expansion estimate with
      | .error breakage => throw breakage
      | .ok report => put host report

/-- A run on arguments that are understood. Settings are loaded before the catalog. -/
def ofArguments : Session Nat := do
  match settingsOf host arguments with
  | .error failure => refuse (.load failure)
  | .ok settings =>
    let listing := catalogOf host arguments
    note arguments.verbose listing.events
    match listing.result with
    | .error failure => refuse (.load failure)
    | .ok catalog =>
      if arguments.validate then check host arguments settings
      else expandAndPresent host arguments settings catalog

end Session

/-- How a run ends: with an exit code or broken off, and with what it has written. -/
abbrev Ended := EStateM.Result Breakage Transcript Nat

def run (host : Host) (texts : List Text) : Except Ending Ended :=
  match Arguments.ofTexts texts with
  | .error ending => .error ending
  | .ok arguments => .ok ((Session.ofArguments host arguments).run {})

end PromptTemplate.CommandLine
