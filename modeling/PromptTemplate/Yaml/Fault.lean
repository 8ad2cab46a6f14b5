import PromptTemplate.Codes.Utf
import PromptTemplate.Text.Printable

set_option autoImplicit false

namespace PromptTemplate.Yaml

/-- A place in a text; lines and columns are counted from zero. -/
structure Mark where
  line : Nat
  column : Nat
  deriving DecidableEq, Repr

/-- A place in a file, as it is reported: lines and columns are counted from one. -/
def Mark.words (file : String) (mark : Mark) : String :=
  s!"  in \"{file}\", line {mark.line + 1}, column {mark.column + 1}"

/-- What is read or built when a problem comes up. -/
inductive Activity where
  | nextToken
  | simpleKey
  | directive
  | directiveTag
  | alias
  | anchor
  | tag
  | tagText
  | blockScalar
  | quotedScalar
  | escapedScalar
  | node
  | blockNode
  | flowNode
  | blockSequence
  | blockMapping
  | flowSequence
  | flowMapping
  | document
  | namedNode (name : Text)
  | mapping
  | orderedMap
  | pairs
  deriving DecidableEq, Repr

def Activity.words : Activity → String
  | .nextToken => "while scanning for the next token"
  | .simpleKey => "while scanning a simple key"
  | .directive => "while scanning a directive"
  | .directiveTag => "while parsing a directive"
  | .alias => "while scanning an alias"
  | .anchor => "while scanning an anchor"
  | .tag => "while scanning a tag"
  | .tagText => "while parsing a tag"
  | .blockScalar => "while scanning a block scalar"
  | .quotedScalar => "while scanning a quoted scalar"
  | .escapedScalar => "while scanning a double-quoted scalar"
  | .node => "while parsing a node"
  | .blockNode => "while parsing a block node"
  | .flowNode => "while parsing a flow node"
  | .blockSequence => "while parsing a block collection"
  | .blockMapping => "while parsing a block mapping"
  | .flowSequence => "while parsing a flow sequence"
  | .flowMapping => "while parsing a flow mapping"
  | .document => "expected a single document in the stream"
  | .namedNode name =>
    "found duplicate anchor " ++ String.ofList (Text.quoted name) ++ "; first occurrence"
  | .mapping => "while constructing a mapping"
  | .orderedMap => "while constructing an ordered map"
  | .pairs => "while constructing pairs"

/-- What is wrong. A character that is found is none at the end of the text. -/
inductive Problem where
  | strayCharacter (found : Option Char)
  | missingColon
  | misplacedItem
  | misplacedKey
  | misplacedValue
  /-- Some characters would have to stand here. -/
  | expected (what : String) (found : Option Char)
  | zeroIndentation
  | unknownEscape (found : Option Char)
  | textEnds
  | documentEnds
  | undecodable (fault : Codes.UtfFault)
  | repeatedVersion
  | foreignVersion
  | repeatedHandle (handle : Text)
  | unknownHandle (handle : Text)
  /-- Some part of the document would have to stand here. -/
  | expectedPart (what found : String)
  /-- An element of a flow collection would have to end here. -/
  | expectedEnd (what found : String)
  | secondDocument
  | unknownAlias (name : Text)
  | secondNode
  | unhashableKey
  /-- A node of another form would have to stand here. -/
  | expectedForm (what found : String)
  | severalEntries (count : Nat)
  | unknownTag (tag : Text)
  /-- Characters that are not ASCII, from the first to the last of the first run of them. -/
  | notAscii (found : Char) (first last : Nat)
  | strayDigit (count : Nat)
  | missingPadding
  deriving DecidableEq, Repr

def quotedWords (text : Text) : String :=
  String.ofList (Text.quoted text)

/-- What is found at a place: a character, or the null character at the end of the text. -/
def foundWords (found : Option Char) : String :=
  quotedWords [found.getD '\x00']

def Problem.words : Problem → String
  | .strayCharacter found => "found character " ++ foundWords found ++ " that cannot start any token"
  | .missingColon => "could not find expected ':'"
  | .misplacedItem => "sequence entries are not allowed here"
  | .misplacedKey => "mapping keys are not allowed here"
  | .misplacedValue => "mapping values are not allowed here"
  | .expected what found => "expected " ++ what ++ ", but found " ++ foundWords found
  | .zeroIndentation => "expected indentation indicator in the range 1-9, but found 0"
  | .unknownEscape found => "found unknown escape character " ++ foundWords found
  | .textEnds => "found unexpected end of stream"
  | .documentEnds => "found unexpected document separator"
  | .undecodable fault => fault.message
  | .repeatedVersion => "found duplicate YAML directive"
  | .foreignVersion => "found incompatible YAML document (version 1.* is required)"
  | .repeatedHandle handle => "duplicate tag handle " ++ quotedWords handle
  | .unknownHandle handle => "found undefined tag handle " ++ quotedWords handle
  | .expectedPart what found =>
    "expected " ++ what ++ ", but found " ++ quotedWords found.toList
  | .expectedEnd what found => "expected " ++ what ++ ", but got " ++ quotedWords found.toList
  | .secondDocument => "but found another document"
  | .unknownAlias name => "found undefined alias " ++ quotedWords name
  | .secondNode => "second occurrence"
  | .unhashableKey => "found unhashable key"
  | .expectedForm what found => "expected " ++ what ++ ", but found " ++ found
  | .severalEntries count => s!"expected a single mapping item, but found {count} items"
  | .unknownTag tag => "could not determine a constructor for the tag " ++ quotedWords tag
  | .notAscii found first last =>
    let place :=
      if first = last then
        "character '" ++ String.ofList (Text.codePointEscape found) ++ s!"' in position {first}"
      else s!"characters in position {first}-{last}"
    "failed to convert base64 data into ascii: 'ascii' codec can't encode " ++ place ++
      ": ordinal not in range(128)"
  | .strayDigit count =>
    s!"failed to decode base64 data: Invalid base64-encoded string: number of data characters ({count})" ++
      " cannot be 1 more than a multiple of 4"
  | .missingPadding => "failed to decode base64 data: Incorrect padding"

/-- A problem with its place. -/
structure Complaint where
  /-- What was being read or built. -/
  activity : Option Activity := none
  /-- Where that began. -/
  since : Option Mark := none
  problem : Problem
  place : Mark
  deriving DecidableEq, Repr

/-- The words for a complaint on a file. The mark of the beginning is left out where it is that of the
problem. -/
def Complaint.words (file : String) (complaint : Complaint) : String :=
  let activity := (complaint.activity.map Activity.words).toList
  let since := match complaint.since with
    | some mark => if mark = complaint.place then [] else [mark.words file]
    | none => []
  String.intercalate "\n"
    (activity ++ since ++ [complaint.problem.words, complaint.place.words file])

/-- Why a YAML text holds no value. -/
inductive Fault where
  | complaint (complaint : Complaint)
  /-- A character that no YAML text may hold, and the number of characters before it. -/
  | forbiddenCharacter (found : Char) (index : Nat)
  /-- A scalar has the form of a number, a day or a character, but there is no such one. -/
  | noSuchValue
  /-- A number without digits. -/
  | noDigits
  /-- No truth value has the spelling. -/
  | noTruth
  /-- No day or moment has the spelling. -/
  | noMoment
  /-- A day or moment that is not spelled by a scalar. -/
  | noSpelling
  /-- A number beyond what can be held. -/
  | overflow
  /-- The document is nested too deeply. -/
  | tooDeep
  deriving DecidableEq, Repr

def Fault.message? (file : String) : Fault → Option String
  | .complaint found => some (found.words file)
  | .forbiddenCharacter found index =>
    some ("unacceptable character #x" ++ String.ofList (Text.hexadecimal 4 found.toNat) ++
      ": special characters are not allowed\n  in \"" ++ file ++ s!"\", position {index}")
  | _ => none

def refuse {α : Type} (activity : Activity) (since : Mark) (problem : Problem) (place : Mark) :
    Except Fault α :=
  .error (.complaint { activity := some activity, since := some since, problem, place })

def refuseAt {α : Type} (problem : Problem) (place : Mark) : Except Fault α :=
  .error (.complaint { problem, place })

end PromptTemplate.Yaml
