import PromptTemplate.Yaml.Token.Plain

set_option autoImplicit false

namespace PromptTemplate.Yaml.Lexer

def letterEscapes : List (Char × Char) :=
  [('0', '\x00'), ('a', '\x07'), ('b', '\x08'), ('t', '\t'), ('\t', '\t'), ('n', '\n'),
    ('v', '\x0b'), ('f', '\x0c'), ('r', '\r'), ('e', '\x1b'), (' ', ' '), ('"', '"'),
    ('\\', '\\'), ('/', '/'), ('N', '\u0085'), ('_', '\u00a0'), ('L', '\u2028'), ('P', '\u2029')]

/-- The letters of escapes by code point, with the number of digits behind them. -/
def codeEscapes : List (Char × Nat) :=
  [('x', 2), ('u', 4), ('U', 8)]

def hexValue? (c : Char) : Option Nat :=
  if c.isDigit then some (c.toNat - '0'.toNat)
  else if 'a' ≤ c.toLower && c.toLower ≤ 'f' then some (c.toLower.toNat - 'a'.toNat + 10)
  else none

/-- The first of a count of characters that is no hexadecimal digit, if there is one. -/
def noHex? : Nat → Text → Option (Option Char)
  | 0, _ => none
  | _ + 1, [] => some none
  | count + 1, c :: rest => if (hexValue? c).isSome then noHex? count rest else some (some c)

def hexNumber (digits : Text) : Nat :=
  digits.foldl (fun n c => 16 * n + (hexValue? c).getD 0) 0

def codePoint (n : Nat) : Except Fault Nat :=
  if n < 0x110000 then .ok n else if n < 0x80000000 then .error .noSuchValue else .error .overflow

/-- The text of code points, in which two halves of a pair next to each other are one character. -/
def joinPairs : Codes → Codes
  | high :: low :: rest =>
    if 0xd800 ≤ high && high < 0xdc00 && 0xdc00 ≤ low && low < 0xe000 then
      (0x10000 + (high - 0xd800) * 0x400 + (low - 0xdc00)) :: joinPairs rest
    else high :: joinPairs (low :: rest)
  | codes => codes

/-- The line ends at the start of a continued quoted scalar, where no document mark may stand. -/
def quotedBreaks (since : Mark) (cursor : Cursor) : Except Fault (Text × Cursor) :=
  if startsDocumentMark cursor.rest then refuse .quotedScalar since .documentEnds cursor.mark
  else
    let behind := cursor.skipWhile fun c => c == ' ' || c == '\t'
    match behind.rest with
    | [] => .ok ([], behind)
    | c :: _ =>
      if isBreak c then
        if _shorter : behind.next.rest.length < cursor.rest.length then
          (quotedBreaks since behind.next).map fun (breaks, finish) => (breakChar c :: breaks, finish)
        else .ok ([], behind)
      else .ok ([], behind)
termination_by cursor.rest.length

/-- What an escape stands for; the position is that behind the backslash. -/
def escaped (since : Mark) (cursor : Cursor) : Except Fault (Codes × Cursor) :=
  match cursor.rest with
  | [] => refuse .escapedScalar since (.unknownEscape none) cursor.mark
  | c :: digits =>
    match letterEscapes.find? (·.1 == c), codeEscapes.find? (·.1 == c) with
    | some (_, meaning), _ => .ok ([meaning.toNat], cursor.next)
    | none, some (_, width) =>
      match noHex? width digits with
      | some found =>
        refuse .escapedScalar since
          (.expected s!"escape sequence of {width} hexadecimal numbers" found) cursor.next.mark
      | none => do
        let code ← codePoint (hexNumber (digits.take width))
        return ([code], cursor.skip (1 + width))
    | none, none =>
      if isBreak c then do
        let (breaks, behind) ← quotedBreaks since cursor.next
        return (Codes.ofText breaks, behind)
      else refuse .escapedScalar since (.unknownEscape (some c)) cursor.mark

/-- What stands at a position of a quoted scalar that is not its end: some characters as they are, an
escape, or blanks with line ends among them. -/
def quotedPart (quote : Char) (since : Mark) (cursor : Cursor) : Except Fault (Codes × Cursor) :=
  match cursor.rest with
  | [] => refuse .quotedScalar since .textEnds cursor.mark
  | c :: _ =>
    if c = '\\' && quote = '"' then escaped since cursor.next
    else if c = ' ' || c = '\t' || isBreak c then
      let (spaces, behind) := cursor.takeWhile fun c => c == ' ' || c == '\t'
      match behind.rest with
      | [] => refuse .quotedScalar since .textEnds behind.mark
      | d :: _ =>
        if isBreak d then do
          let (breaks, finish) ← quotedBreaks since behind.next
          return (Codes.ofText (foldBreaks d breaks), finish)
        else .ok (Codes.ofText spaces, behind)
    else if c = quote then .ok ([quote.toNat], cursor.skip 2)
    else .ok ([c.toNat], cursor.next)

/-- Whether a quoted scalar ends in front of a text: at its quote, which for the single quote is not
doubled. -/
def endsQuoted (quote : Char) : Text → Bool
  | c :: d :: _ => c == quote && !(quote == '\'' && d == '\'')
  | [c] => c == quote
  | [] => false

/-- The content of a quoted scalar up to its closing quote, and the position behind it. -/
def quotedContent (quote : Char) (since : Mark) (cursor : Cursor) : Except Fault (Codes × Cursor) :=
  if endsQuoted quote cursor.rest then .ok ([], cursor.next)
  else
    match quotedPart quote since cursor with
    | .error fault => .error fault
    | .ok (part, behind) =>
      if _shorter : behind.rest.length < cursor.rest.length then
        (quotedContent quote since behind).map fun (further, finish) => (part ++ further, finish)
      else .ok (part, behind)
termination_by cursor.rest.length

def quotedScalar (lexer : Lexer) (quote : Char) : Except Fault Lexer := do
  let lexer ← lexer.keepPlace
  let (content, cursor) ← quotedContent quote lexer.mark lexer.cursor.next
  let text := Codes.toText (joinPairs content)
  return { lexer.emitUpTo (.scalar text false) cursor with mayStartKey := false }

end PromptTemplate.Yaml.Lexer
