import PromptTemplate.Yaml.Token.Quoted

set_option autoImplicit false

namespace PromptTemplate.Yaml.Lexer

/-- Whether a character may stand in the name of an anchor. -/
def isNameChar (c : Char) : Bool :=
  c.isAlphanum || c == '-' || c == '_'

/-- The complaint about a place where a name would have to go on or end. -/
def refuseName {α : Type} (activity : Activity) (since : Mark) (cursor : Cursor) : Except Fault α :=
  refuse activity since (.expected "alphabetic or numeric character" cursor.here) cursor.mark

/-- A name that ends as a test on the rest says, and the position behind it. -/
def nameUpTo (ends : Text → Bool) (activity : Activity) (since : Mark) (cursor : Cursor) :
    Except Fault (Text × Cursor) :=
  let (name, behind) := cursor.takeWhile isNameChar
  if name.isEmpty then refuseName activity since cursor
  else if ends behind.rest then .ok (name, behind)
  else refuseName activity since behind

def endsName : Text → Bool
  | [] => true
  | c :: _ => isBlank c || "?:,]\x7d%@".toList.contains c || c == '\x60'

def anchored (lexer : Lexer) (activity : Activity) (token : Text → Token) : Except Fault Lexer := do
  let lexer ← lexer.keepPlace
  let (name, cursor) ← nameUpTo endsName activity lexer.mark lexer.cursor.next
  return { lexer.emitUpTo (token name) cursor with mayStartKey := false }

def isTagChar (c : Char) : Bool :=
  c.isAlphanum || "-;/?:@&=+$,_.!~*'()[]".toList.contains c

/-- The bytes that escapes with a percent sign stand for, and the position behind them. -/
def percentBytes (activity : Activity) (since : Mark) (cursor : Cursor) :
    Except Fault (Codes × Cursor) :=
  match cursor.rest with
  | '%' :: rest =>
    match noHex? 2 rest with
    | some found =>
      refuse activity since (.expected "URI escape sequence of 2 hexadecimal numbers" found)
        cursor.next.mark
    | none =>
      let behind := cursor.skip 3
      if _shorter : behind.rest.length < cursor.rest.length then
        (percentBytes activity since behind).map fun (bytes, finish) =>
          (hexNumber (rest.take 2) :: bytes, finish)
      else .ok ([], cursor)
  | _ => .ok ([], cursor)
termination_by cursor.rest.length

def tagChars (activity : Activity) (since : Mark) (cursor : Cursor) : Except Fault (Text × Cursor) :=
  let (found, behind) := cursor.takeWhile isTagChar
  if behind.here = some '%' then
    match percentBytes activity since behind with
    | .error fault => .error fault
    | .ok (bytes, next) =>
      match Codes.ofUtf bytes with
      | .error fault => refuse activity since (.undecodable fault) behind.mark
      | .ok codes =>
        if _shorter : next.rest.length < cursor.rest.length then
          (tagChars activity since next).map fun (further, finish) =>
            (found ++ Codes.toText codes ++ further, finish)
        else .ok (found, next)
  else .ok (found, behind)
termination_by cursor.rest.length

/-- The text of a tag, which is not empty, and the position behind it. The first activity is reported
for escapes, the second one for a text that is missing. -/
def tagText (activity textActivity : Activity) (since : Mark) (cursor : Cursor) :
    Except Fault (Text × Cursor) := do
  let (text, behind) ← tagChars activity since cursor
  if text.isEmpty then refuse textActivity since (.expected "URI" behind.here) behind.mark
  else return (text, behind)

/-- Whether a text starts with a handle that ends in an exclamation mark. -/
def hasHandle (text : Text) : Bool :=
  ((text.takeWhile fun c => c != ' ' && !isBreak c)).contains '!'

/-- The handle of a tag between two exclamation marks, the first of which has been read. -/
def handleName (activity : Activity) (since : Mark) (cursor : Cursor) :
    Except Fault (Text × Cursor) :=
  let (name, behind) := cursor.takeWhile isNameChar
  match behind.rest with
  | '!' :: _ => .ok ('!' :: name ++ ['!'], behind.next)
  | _ => refuse activity since (.expected "'!'" behind.here) behind.mark

def tagged (lexer : Lexer) : Except Fault Lexer := do
  let lexer ← lexer.keepPlace
  let since := lexer.mark
  let start := lexer.cursor.next
  let (token, cursor) ← match start.rest with
    | '<' :: _ => do
      let (suffix, behind) ← tagText .tag .tagText since start.next
      match behind.rest with
      | '>' :: _ => pure (Token.tag none suffix, behind.next)
      | _ => refuse .tagText since (.expected "'>'" behind.here) behind.mark
    | rest =>
      if startsBlank rest then pure (Token.tag none ['!'], start)
      else if hasHandle rest then do
        let (handle, behind) ← handleName .tag since start
        let (suffix, behind) ← tagText .tag .tagText since behind
        pure (Token.tag (some handle) suffix, behind)
      else do
        let (suffix, behind) ← tagText .tag .tagText since start
        pure (Token.tag (some ['!']) suffix, behind)
  if startsSpaceOrBreak cursor.rest then
    return { lexer.emitUpTo token cursor with mayStartKey := false }
  else refuse .tag since (.expected "' '" cursor.here) cursor.mark

/-- The most digits that a decimal number of a directive may have. -/
def maxVersionDigits : Nat := 4300

def versionNumber (since : Mark) (cursor : Cursor) : Except Fault (Nat × Cursor) :=
  let (digits, behind) := cursor.takeWhile Char.isDigit
  if digits.isEmpty then refuse .directive since (.expected "a digit" cursor.here) cursor.mark
  else if maxVersionDigits < digits.length then .error .noSuchValue
  else .ok (digits.foldl (fun n c => 10 * n + (c.toNat - '0'.toNat)) 0, behind)

/-- A version of two numbers, and the position behind it. -/
def versionDirective (since : Mark) (cursor : Cursor) : Except Fault (Token × Cursor) := do
  let (major, behind) ← versionNumber since cursor
  match behind.rest with
  | '.' :: _ =>
    let (_, behind) ← versionNumber since behind.next
    if startsSpaceOrBreak behind.rest then return (.version major, behind)
    else refuse .directive since (.expected "a digit or ' '" behind.here) behind.mark
  | _ => refuse .directive since (.expected "a digit or '.'" behind.here) behind.mark

/-- A handle with the text that it stands for, and the position behind it. -/
def handleDirective (since : Mark) (cursor : Cursor) : Except Fault (Token × Cursor) := do
  let (handle, behind) ← match cursor.rest with
    | '!' :: ' ' :: _ => pure (['!'], cursor.next)
    | '!' :: _ => handleName .directive since cursor.next
    | _ => refuse .directive since (.expected "'!'" cursor.here) cursor.mark
  if behind.here != some ' ' then
    refuse .directive since (.expected "' '" behind.here) behind.mark
  let (start, behind) ← tagText .directive .directiveTag since (behind.skipWhile (· == ' '))
  if startsSpaceOrBreak behind.rest then return (.tagHandle handle start, behind)
  else refuse .directive since (.expected "' '" behind.here) behind.mark

def directive (lexer : Lexer) : Except Fault Lexer := do
  let lexer ← (lexer.unwind (-1)).dropPending
  let since := lexer.mark
  let (name, behindName) ← nameUpTo startsSpaceOrBreak .directive since lexer.cursor.next
  let value := behindName.skipWhile (· == ' ')
  let (token, behind) ←
    if name = "YAML".toList then versionDirective since value
    else if name = "TAG".toList then handleDirective since value
    else pure (Token.otherDirective, behindName.skipWhile (!isBreak ·))
  let cursor ← endOfLine .directive since behind
  return { lexer.emitUpTo token cursor with mayStartKey := false }

end PromptTemplate.Yaml.Lexer
