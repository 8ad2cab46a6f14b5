import PromptTemplate.Text.Basic

set_option autoImplicit false

namespace PromptTemplate.CommandLine

inductive Choice where
  | help
  | catalog
  | config
  | cost
  | validate
  | execution
  | yaml
  | verbose
  deriving DecidableEq, Repr

namespace Choice

def takesValue : Choice → Bool
  | .catalog | .config | .cost => true
  | _ => false

def longNames : List (Text × Choice) :=
  [("help".toList, .help), ("catalog".toList, .catalog), ("config".toList, .config),
    ("cost".toList, .cost), ("validate".toList, .validate), ("execution".toList, .execution),
    ("yaml".toList, .yaml), ("verbose".toList, .verbose)]

def ofLetter? : Char → Option Choice
  | 'h' => some .help
  | 'c' => some .catalog
  | 'v' => some .verbose
  | _ => none

/-- The options whose long name is a given one, or starts with it if no name is exactly it. -/
def ofLongName (name : Text) : List Choice :=
  match longNames.find? (·.1 == name) with
  | some (_, choice) => [choice]
  | none => (longNames.filter fun entry => name.isPrefixOf entry.1).map (·.2)

end Choice

/-- Why the program does not run: help is asked for, or the arguments are not understood. -/
inductive Ending where
  | help
  | usage
  deriving DecidableEq, Repr

inductive Word where
  | operand (text : Text)
  /-- The two dashes behind which everything is an operand. -/
  | terminator
  | long (choice : Choice) (attached : Option Text)
  | short (choice : Choice) (attached : Text)
  | unknown
  deriving DecidableEq, Repr

namespace Word

/-- Whether a text is a number below zero: a dash, decimal digits, and perhaps a point in front of the
last of them. A line feed may follow. -/
def isNegativeNumber (text : Text) : Bool :=
  let body := if text.getLast? = some '\n' then text.dropLast else text
  let isDigit (c : Char) : Bool := (Text.digitValue? c).isSome
  match body with
  | '-' :: digits =>
    match digits.dropWhile isDigit with
    | [] => !digits.isEmpty
    | '.' :: fraction => !fraction.isEmpty && fraction.all isDigit
    | _ => false
  | _ => false

def splitAtEquals (text : Text) : Text × Option Text :=
  match text.dropWhile (· != '=') with
  | [] => (text, none)
  | _ :: value => (text.takeWhile (· != '='), some value)

/-- A text that names no option: numbers below zero and texts with a space are operands. -/
def ofUnnamed (text : Text) : Word :=
  if isNegativeNumber text || text.contains ' ' then .operand text else .unknown

/-- Reads an argument. There is no word for the beginning of several long names. -/
def ofText? (text : Text) : Option Word :=
  match text with
  | ['-', '-'] => some .terminator
  | '-' :: '-' :: body =>
    let (name, attached) := splitAtEquals body
    match Choice.ofLongName name with
    | [] => some (ofUnnamed text)
    | [choice] => some (.long choice attached)
    | _ => none
  | ['-'] => some (.operand text)
  | '-' :: letter :: body =>
    match Choice.ofLetter? letter with
    | none => some (ofUnnamed text)
    | some choice => some (.short choice body)
  | text => some (.operand text)

/-- Reads arguments; behind the terminator all are operands. -/
def ofTexts? : List Text → Option (List Word)
  | [] => some []
  | text :: rest =>
    match ofText? text with
    | none => none
    | some .terminator => some (.terminator :: rest.map .operand)
    | some word => (ofTexts? rest).map (word :: ·)

end Word

/-- The options that stand in one word. -/
structure Cluster where
  flags : List Choice := []
  /-- The last option if it takes a value, and the value if it is attached. -/
  valued : Option (Choice × Option Text) := none
  /-- Whether letters are left that name no option. -/
  hasSurplus : Bool := false
  deriving DecidableEq, Repr

namespace Cluster

/-- An option with no value attached. -/
def ofChoice (choice : Choice) : Cluster :=
  if choice.takesValue then { valued := some (choice, none) } else { flags := [choice] }

/-- An option with an attached value. A flag has none. -/
def ofValue? (choice : Choice) (value : Text) : Option Cluster :=
  if choice.takesValue then some { valued := some (choice, some value) } else none

/-- The options of a letter and of the text attached to it. Behind a flag stand further letters. The
first one that names no option leaves the rest without a use, and a dash is refused. -/
def ofLetters? (choice : Choice) : Text → Option Cluster
  | [] => some (ofChoice choice)
  | letter :: rest =>
    if letter = '=' then ofValue? choice rest
    else if choice.takesValue then ofValue? choice (letter :: rest)
    else if letter = '-' then none
    else match Choice.ofLetter? letter with
      | none => some { flags := [choice], hasSurplus := true }
      | some next => (ofLetters? next rest).map fun cluster =>
          { cluster with flags := choice :: cluster.flags }

end Cluster

def Word.cluster? : Word → Option Cluster
  | .long choice none => some (.ofChoice choice)
  | .long choice (some value) => Cluster.ofValue? choice value
  | .short choice attached => Cluster.ofLetters? choice attached
  | _ => none

structure Arguments where
  prompt : Text
  catalog : Option Text := none
  config : Option Text := none
  cost : Option Text := none
  validate : Bool := false
  execution : Bool := false
  yaml : Bool := false
  verbose : Bool := false
  deriving DecidableEq, Repr

namespace Arguments

structure Draft extends Arguments where
  hasPrompt : Bool := false
  /-- Whether there is an argument without a use. -/
  hasSurplus : Bool := false
  deriving DecidableEq, Repr

namespace Draft

def empty : Draft := { prompt := [] }

/-- The path that a text gives. Without characters there is none. -/
def path? (text : Text) : Option Text :=
  if text.isEmpty then none else some text

/-- Notes an option with a value. Of several values the last counts. -/
def withValue (draft : Draft) (choice : Choice) (text : Text) : Draft :=
  match choice with
  | .catalog => { draft with catalog := path? text }
  | .config => { draft with config := path? text }
  | .cost => { draft with cost := some text }
  | _ => draft

def withFlag (draft : Draft) : Choice → Except Ending Draft
  | .help => .error .help
  | .validate => .ok { draft with validate := true }
  | .execution => .ok { draft with execution := true }
  | .yaml => .ok { draft with yaml := true }
  | .verbose => .ok { draft with verbose := true }
  | _ => .ok draft

def withFlags (draft : Draft) (flags : List Choice) : Except Ending Draft :=
  flags.foldlM withFlag draft

/-- Notes an operand: the prompt, or one too many. -/
def withOperand (draft : Draft) (text : Text) : Draft :=
  if draft.hasPrompt then { draft with hasSurplus := true }
  else { draft with prompt := text, hasPrompt := true }

/-- Notes the words behind the terminator. The terminator itself is of use next to the prompt only. -/
def withTail (draft : Draft) (besidePrompt : Bool) (words : List Word) : Draft :=
  let noted := words.foldl (fun draft word =>
    match word with
    | .operand text => draft.withOperand text
    | _ => draft) draft
  if draft.hasPrompt && !besidePrompt then { noted with hasSurplus := true } else noted

/-- Reads words from left to right. The flag says that the prompt was the word before. -/
def read (draft : Draft) (besidePrompt : Bool) : List Word → Except Ending Draft
  | [] => .ok draft
  | .operand text :: rest => read (draft.withOperand text) (!draft.hasPrompt) rest
  | .terminator :: rest => .ok (draft.withTail besidePrompt rest)
  | .unknown :: rest => read { draft with hasSurplus := true } false rest
  | word :: rest =>
    match word.cluster? with
    | none => .error .usage
    | some cluster =>
      match cluster.valued, rest with
      | some (choice, some value), rest => do
        read ((← draft.withFlags cluster.flags).withValue choice value) false rest
      | some (choice, none), .operand value :: rest => do
        read ((← draft.withFlags cluster.flags).withValue choice value) false rest
      | some (_, none), _ => .error .usage
      | none, rest => do
        let noted ← draft.withFlags cluster.flags
        read { noted with hasSurplus := noted.hasSurplus || cluster.hasSurplus } false rest

end Draft

/-- Reads the arguments. An ambiguous option is refused before anything else is looked at. -/
def ofTexts (texts : List Text) : Except Ending Arguments :=
  match Word.ofTexts? texts with
  | none => .error .usage
  | some words =>
    match Draft.empty.read false words with
    | .error ending => .error ending
    | .ok draft =>
      if draft.hasPrompt && !draft.hasSurplus then .ok draft.toArguments else .error .usage

end Arguments

end PromptTemplate.CommandLine
