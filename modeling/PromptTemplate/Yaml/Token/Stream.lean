import PromptTemplate.Yaml.Token.Block
import PromptTemplate.Yaml.Token.Property

set_option autoImplicit false

namespace PromptTemplate.Yaml

namespace Lexer

/-- Takes a mark that starts or ends a document. -/
def documentMark (lexer : Lexer) (token : Token) : Except Fault Lexer := do
  let lexer ← (lexer.unwind (-1)).dropPending
  return { lexer.take 3 token with mayStartKey := false }

/-- Takes the opening bracket of a flow collection. -/
def openFlow (lexer : Lexer) (token : Token) : Except Fault Lexer := do
  let lexer ← lexer.keepPlace
  return { lexer.take 1 token with
    pending := none, outerPending := lexer.pending :: lexer.outerPending, mayStartKey := true }

/-- Takes the closing bracket of a flow collection. One that closes nothing is a token as well. -/
def closeFlow (lexer : Lexer) (token : Token) : Except Fault Lexer := do
  let lexer ← lexer.dropPending
  match lexer.outerPending with
  | [] => return { lexer.take 1 token with mayStartKey := false }
  | pending :: outerPending =>
    return { lexer.take 1 token with pending, outerPending, mayStartKey := false }

/-- Takes the comma between elements of a flow collection. -/
def flowEntry (lexer : Lexer) : Except Fault Lexer := do
  let lexer ← lexer.dropPending
  return { lexer.take 1 .flowEntry with mayStartKey := true }

/-- Opens a block at the current column if it lies to the right of the innermost one. -/
def openHere (lexer : Lexer) (token : Token) : Lexer :=
  match lexer.openBlock? lexer.cursor.column with
  | some opened => opened.emit token
  | none => lexer

/-- Outside of flow collections, refuses what may only stand where a key may start. -/
def checkStart (lexer : Lexer) (problem : Problem) : Except Fault Unit :=
  if lexer.inFlow || lexer.mayStartKey then .ok () else refuseAt problem lexer.mark

/-- Takes the dash of a block sequence. -/
def blockEntry (lexer : Lexer) : Except Fault Lexer := do
  lexer.checkStart .misplacedItem
  let lexer := if lexer.inFlow then lexer else lexer.openHere .blockSequenceStart
  let lexer ← lexer.dropPending
  return { lexer.take 1 .blockEntry with mayStartKey := true }

/-- Takes the question mark in front of a key. -/
def explicitKey (lexer : Lexer) : Except Fault Lexer := do
  lexer.checkStart .misplacedKey
  let lexer := if lexer.inFlow then lexer else lexer.openHere .blockMappingStart
  let lexer ← lexer.dropPending
  return { lexer.take 1 .key with mayStartKey := !lexer.inFlow }

/-- Takes the colon in front of a value. If a key is pending, it is announced at its place. -/
def valueMark (lexer : Lexer) : Except Fault Lexer :=
  match lexer.pending with
  | some key =>
    let cleared := { lexer with pending := none }
    let announced :=
      if cleared.inFlow then cleared.announce key [.key]
      else match cleared.openBlock? key.start.column with
        | some opened => opened.announce key [.blockMappingStart, .key]
        | none => cleared.announce key [.key]
    .ok { announced.take 1 .value with mayStartKey := false }
  | none => do
    lexer.checkStart .misplacedValue
    let lexer := if lexer.inFlow then lexer else lexer.openHere .blockMappingStart
    return { lexer.take 1 .value with mayStartKey := !lexer.inFlow }

/-- The characters that cannot start a plain scalar. -/
def indicators : Text :=
  "-?:,[]\x7b\x7d#&*!|>'\"%@\x60".toList

/-- Whether a plain scalar can start with a character in front of a text. -/
def startsPlain (inFlow : Bool) (c : Char) (rest : Text) : Bool :=
  (!isBlank c && !indicators.contains c) ||
    (!startsBlank rest && (c == '-' || (!inFlow && (c == '?' || c == ':'))))

/-- Takes the next token, which starts with the given character. -/
def fetch (lexer : Lexer) (c : Char) (rest : Text) : Except Fault Lexer :=
  let isMark := lexer.cursor.column == 0 && startsDocumentMark (c :: rest)
  if c = '%' && lexer.cursor.column == 0 then lexer.directive
  else if isMark && c = '-' then lexer.documentMark .documentStart
  else if isMark then lexer.documentMark .documentEnd
  else if c = '[' then lexer.openFlow .flowSequenceStart
  else if c = '\x7b' then lexer.openFlow .flowMappingStart
  else if c = ']' then lexer.closeFlow .flowSequenceEnd
  else if c = '\x7d' then lexer.closeFlow .flowMappingEnd
  else if c = ',' then lexer.flowEntry
  else if c = '-' && startsBlank rest then lexer.blockEntry
  else if c = '?' && (lexer.inFlow || startsBlank rest) then lexer.explicitKey
  else if c = ':' && (lexer.inFlow || startsBlank rest) then lexer.valueMark
  else if c = '*' then lexer.anchored .alias .alias
  else if c = '&' then lexer.anchored .anchor .anchor
  else if c = '!' then lexer.tagged
  else if c = '|' && !lexer.inFlow then lexer.blockScalar false
  else if c = '>' && !lexer.inFlow then lexer.blockScalar true
  else if c = '\'' || c = '"' then lexer.quotedScalar c
  else if startsPlain lexer.inFlow c rest then lexer.plainScalar
  else
    .error (.complaint
      { activity := some .nextToken, problem := .strayCharacter (some c), place := lexer.mark })

/-- Closes everything at the end of the text. -/
def finish (lexer : Lexer) : Except Fault Lexer := do
  let finished ← (lexer.unwind (-1)).dropPending
  return finished.emit .textEnd

def brokenOff (lexer : Lexer) (fault : Fault) : List Lexeme :=
  lexer.tokens.toList.take lexer.settled ++ [⟨.broken fault, lexer.mark, lexer.mark⟩]

def step (lexer : Lexer) (c : Char) (rest : Text) : Except Fault Lexer := do
  let fetched ← lexer.fetch c rest
  fetched.dropAllStale

def run (lexer : Lexer) : List Lexeme :=
  match lexer.toNextToken.dropAllStale with
  | .error fault => lexer.brokenOff fault
  | .ok ready =>
    let ready := ready.unwind ready.cursor.column
    match ready.cursor.rest with
    | [] =>
      match ready.finish with
      | .error fault => lexer.brokenOff fault
      | .ok finished => finished.tokens.toList
    | c :: rest =>
      match ready.step c rest with
      | .error fault => lexer.brokenOff fault
      | .ok fetched =>
        if _shorter : fetched.cursor.rest.length < lexer.cursor.rest.length then run fetched
        else lexer.tokens.toList
termination_by lexer.cursor.rest.length

end Lexer

def forbiddenCharacter? : Nat → Text → Option (Char × Nat)
  | _, [] => none
  | index, c :: rest =>
    if isAllowed c then forbiddenCharacter? (index + 1) rest else some (c, index)

def Token.ofText (text : Text) : List Lexeme :=
  match forbiddenCharacter? 0 text with
  | some (c, index) => [⟨.broken (.forbiddenCharacter c index), ⟨0, 0⟩, ⟨0, 0⟩⟩]
  | none => Lexer.run { cursor := { rest := text } }

end PromptTemplate.Yaml
