import PromptTemplate.Text.Printable

set_option autoImplicit false

namespace PromptTemplate

/-- A run of code points or of bytes. -/
abbrev Codes := List Nat

namespace Codes

def ofText (text : Text) : Codes :=
  text.map Char.toNat

def ofString (literal : String) : Codes :=
  ofText literal.toList

/-- The text that code points spell. One that no character has becomes the replacement character. -/
def toText (codes : Codes) : Text :=
  codes.map fun code => if code.isValidChar then Char.ofNat code else '\ufffd'

/-- Whether a code point counts as white space. -/
def isBlank (code : Nat) : Bool :=
  Text.inRanges Text.blankRanges code

/-- Whether a byte counts as white space. -/
def isBlankByte (code : Nat) : Bool :=
  code == 32 || (9 ≤ code && code ≤ 13)

/-- Whether a code point ends a line. -/
def isBreak (code : Nat) : Bool :=
  (10 ≤ code && code ≤ 13) || (0x1c ≤ code && code ≤ 0x1e) || code == 0x85 || code == 0x2028 ||
    code == 0x2029

def isBreakByte (code : Nat) : Bool :=
  code == 10 || code == 13

/-- The lower case form of an ASCII letter. -/
def lowerAscii (code : Nat) : Nat :=
  if 65 ≤ code && code ≤ 90 then code + 32 else code

/-- The upper case form of an ASCII letter. -/
def upperAscii (code : Nat) : Nat :=
  if 97 ≤ code && code ≤ 122 then code - 32 else code

def isPrintable (code : Nat) : Bool :=
  code.isValidChar && Text.isPrintable (Char.ofNat code)

/-- The escape of a code point: two, four or eight digits, as many as it needs. -/
def escape (code : Nat) : Text :=
  if code < 0x100 then "\\x".toList ++ Text.hexadecimal 2 code
  else if code < 0x10000 then "\\u".toList ++ Text.hexadecimal 4 code
  else "\\U".toList ++ Text.hexadecimal 8 code

def quoteFor (codes : Codes) : Nat :=
  if codes.contains 39 && !codes.contains 34 then 34 else 39

/-- A code as it stands between two quotes; the test says which codes are shown as they are. -/
def escaped (shown : Nat → Bool) (quote code : Nat) : Codes :=
  if code = quote || code = 92 then [92, code]
  else if code = 10 then ofString "\\n"
  else if code = 13 then ofString "\\r"
  else if code = 9 then ofString "\\t"
  else if shown code then [code]
  else ofText (escape code)

def quotedBy (shown : Nat → Bool) (codes : Codes) : Codes :=
  let quote := quoteFor codes
  quote :: codes.flatMap (escaped shown quote) ++ [quote]

def quoted (codes : Codes) : Codes :=
  quotedBy isPrintable codes

def quotedBytes (codes : Codes) : Codes :=
  98 :: quotedBy (fun code => 32 ≤ code && code < 127) codes

/-- Cuts codes off both ends, as long as they are of a class. -/
def strip (left right : Bool) (isStripped : Nat → Bool) (codes : Codes) : Codes :=
  let front := if left then codes.dropWhile isStripped else codes
  if right then (front.reverse.dropWhile isStripped).reverse else front

/-- Whether one run comes before another, code by code. -/
def precedes : Codes → Codes → Bool
  | _, [] => false
  | [], _ :: _ => true
  | a :: as, b :: bs => a < b || (a == b && precedes as bs)

end Codes

end PromptTemplate
