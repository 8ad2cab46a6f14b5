import PromptTemplate.Formula.Token.Numeral
import PromptTemplate.Letter.Name

set_option autoImplicit false

namespace PromptTemplate.Formula.Token

/-- The content of a literal up to its closing quotes, and what follows; none if it does not end. A
backslash takes the character behind it along. The flag says that a character has been taken along. -/
def untilQuote (quote : Char) (isLong : Bool) : Bool → Text → Option (Text × Text)
  | _, [] => none
  | true, c :: rest => (untilQuote quote isLong false rest).map fun (found, rest) => (c :: found, rest)
  | false, c :: rest =>
    if c = quote && !isLong then some ([], rest)
    else if c = quote && rest.take 2 == [quote, quote] then some ([], rest.drop 2)
    else if c = '\n' && !isLong then none
    else (untilQuote quote isLong (c == '\\') rest).map fun (found, rest) => (c :: found, rest)

def quotedContent? : Text → Option (Text × Text)
  | [] => none
  | quote :: rest =>
    if rest.take 2 == [quote, quote] then untilQuote quote true false (rest.drop 2)
    else untilQuote quote false false rest

/-- The number of an escape with so many hexadecimal digits. -/
def hexEscape? (width : Nat) (text : Text) : Option Nat :=
  let found := text.take width
  if found.length = width && found.all isHexDigit then some (numberOf 16 found) else none

/-- The escapes of one letter that texts and bytes share. -/
def letterEscapes : List (Char × Nat) :=
  [('\\', 92), ('\'', 39), ('"', 34), ('a', 7), ('b', 8), ('f', 12), ('n', 10), ('r', 13), ('t', 9),
    ('v', 11)]

/-- The code point that a name between braces stands for, and how many characters that takes. -/
def namedEscape? (text : Text) : Option (Nat × Nat) :=
  match text with
  | '\x7b' :: rest =>
    let name := rest.takeWhile (· != '\x7d')
    if name.length < rest.length then
      (Letter.codeOfName? name).map fun code => (code, name.length + 2)
    else none
  | _ => none

/-- What an escape stands for that texts and bytes share, from behind the backslash, and how many
characters it takes. -/
def sharedEscape? (c : Char) (rest : Text) : Option (Codes × Nat) :=
  if c = '\n' then some ([], 1)
  else if '0' ≤ c && c ≤ '7' then
    let found := ((c :: rest).take 3).takeWhile fun d => '0' ≤ d && d ≤ '7'
    some ([numberOf 8 found], found.length)
  else (letterEscapes.find? (·.1 == c)).map fun (_, meaning) => ([meaning], 1)

/-- What an escape of a text stands for, from behind the backslash, and how many characters it takes. An
unknown one stands for itself. -/
def textEscape? : Text → Option (Codes × Nat)
  | [] => some ([92], 0)
  | c :: rest =>
    match sharedEscape? c rest with
    | some found => some found
    | none =>
      if c = 'x' then (hexEscape? 2 rest).map fun code => ([code], 3)
      else if c = 'u' then (hexEscape? 4 rest).map fun code => ([code], 5)
      else if c = 'U' then
        (hexEscape? 8 rest).bind fun code =>
          if code < 0x110000 then some ([code], 9) else none
      else if c = 'N' then (namedEscape? rest).map fun (code, taken) => ([code], taken + 1)
      else some ([92, c.toNat], 1)

def bytesEscape? : Text → Option (Codes × Nat)
  | [] => none
  | c :: rest =>
    match sharedEscape? c rest with
    | some (codes, taken) => some (codes.map (· % 256), taken)
    | none =>
      if c = 'x' then (hexEscape? 2 rest).map fun code => ([code], 3) else some ([92, c.toNat], 1)

/-- The codes of a content by its escapes, or none if one means nothing. The first argument counts
characters that have been taken. -/
def unescape? (escape? : Text → Option (Codes × Nat)) : Nat → Text → Option Codes
  | _, [] => some []
  | skipped + 1, _ :: rest => unescape? escape? skipped rest
  | 0, c :: rest =>
    if c = '\\' then
      match escape? rest with
      | some (meaning, taken) => (unescape? escape? taken rest).map (meaning ++ ·)
      | none => none
    else (unescape? escape? 0 rest).map (c.toNat :: ·)

def textContent? (isRaw : Bool) (content : Text) : Option Codes :=
  if isRaw then some (Codes.ofText content) else unescape? textEscape? 0 content

/-- The codes of a bytes literal, which holds ASCII characters alone. -/
def bytesContent? (isRaw : Bool) (content : Text) : Option Codes :=
  if content.any (0x80 ≤ ·.toNat) then none
  else if isRaw then some (Codes.ofText content) else unescape? bytesEscape? 0 content

/-- The letters that may stand in front of a literal. -/
def literalMarks : List String :=
  ["", "r", "u", "b", "f", "br", "rb", "fr", "rf"]

def ofContent (marks content : Text) : Token :=
  let isRaw := marks.contains 'r'
  if marks.contains 'f' then .template isRaw content
  else if marks.contains 'b' then
    match bytesContent? isRaw content with
    | some codes => .bytes codes
    | none => .broken
  else
    match textContent? isRaw content with
    | some codes => .text codes
    | none => .broken

def literal (marks text : Text) : Except Fault (Token × Text) :=
  match quotedContent? text with
  | some (content, rest) => .ok (ofContent marks content, rest)
  | none => .error .malformed

end PromptTemplate.Formula.Token
