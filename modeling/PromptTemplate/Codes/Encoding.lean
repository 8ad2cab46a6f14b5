import PromptTemplate.Codes.Basic

set_option autoImplicit false

namespace PromptTemplate.Codes

/-- Ways to write code points as bytes. -/
inductive Encoding where
  /-- One byte below the bound, nothing else. -/
  | single (bound : Nat)
  /-- One to four bytes, perhaps behind a mark. -/
  | variable (marked : Bool)
  /-- Two bytes, or twice two, perhaps behind a mark that tells their order. -/
  | pairs (bigEndian marked : Bool)
  /-- Four bytes, perhaps behind a mark that tells their order. -/
  | quads (bigEndian marked : Bool)
  deriving DecidableEq, Repr

/-- Why a text has no bytes, or bytes no text. -/
inductive EncodingFault where
  | unencodable
  | undecodable
  /-- There is no encoding or no rule of the name. -/
  | unknownName
  deriving DecidableEq, Repr

namespace Encoding

def names : List (String × Encoding) :=
  (["utf_8", "utf8", "u8", "utf", "cp65001", "utf8_ucs2", "utf8_ucs4"].map
      (·, Encoding.variable false)) ++
    [("utf_8_sig", .variable true)] ++
    (["ascii", "646", "us_ascii", "us", "cp367", "csascii", "ibm367", "iso646_us", "iso_646.irv_1991",
      "iso_ir_6", "ansi_x3.4_1968", "ansi_x3_4_1968", "ansi_x3.4_1986"].map
        (·, Encoding.single 0x80)) ++
    (["latin_1", "latin1", "latin", "l1", "8859", "cp819", "csisolatin1", "ibm819", "iso8859",
      "iso8859_1", "iso_8859_1", "iso_8859_1_1987", "iso_ir_100"].map (·, Encoding.single 0x100)) ++
    (["utf_16", "utf16", "u16"].map (·, Encoding.pairs false true)) ++
    (["utf_16_le", "utf_16le", "unicodelittleunmarked"].map (·, Encoding.pairs false false)) ++
    (["utf_16_be", "utf_16be", "unicodebigunmarked"].map (·, Encoding.pairs true false)) ++
    (["utf_32", "utf32", "u32"].map (·, Encoding.quads false true)) ++
    (["utf_32_le", "utf_32le"].map (·, Encoding.quads false false)) ++
    (["utf_32_be", "utf_32be"].map (·, Encoding.quads true false))

/-- Encodings that write ASCII texts as their code points; of the other texts nothing is known here. -/
def asciiSupersets : List String :=
  ["cp1250", "cp1251", "cp1252", "cp1253", "cp1254", "cp1255", "cp1256", "cp1257", "cp1258",
    "windows_1250", "windows_1251", "windows_1252", "windows_1253", "windows_1254", "cp437", "cp850",
    "cp852", "cp858", "cp866", "437", "850", "852", "866", "iso8859_2", "iso_8859_2", "iso8859_3",
    "iso8859_4", "iso8859_5", "iso_8859_5", "iso8859_6", "iso8859_7", "iso_8859_7", "iso8859_8",
    "iso8859_9", "iso_8859_9", "iso8859_10", "iso8859_13", "iso8859_14", "iso8859_15", "iso_8859_15",
    "iso8859_16", "latin2", "latin5", "latin9", "l2", "l9", "koi8_r", "koi8_u", "mac_roman",
    "macroman", "macintosh", "gbk", "gb2312", "gb18030", "big5", "euc_jp", "eucjp", "euc_kr", "euckr",
    "shift_jis", "sjis", "shiftjis", "cp932", "cp936", "cp949", "cp950", "hz", "iso2022_jp", "idna",
    "unicode_escape", "raw_unicode_escape"]

/-- A name in normal form: lower case, one underscore for each run of other characters. -/
def normalName (codes : Codes) : Text :=
  let lowered := toText (codes.map lowerAscii)
  let words := (lowered.map fun c => if c.isAlphanum || c = '.' then c else ' ').splitBy
    fun a b => (a == ' ') == (b == ' ')
  Text.join ['_'] (words.filter fun word => word.head? != some ' ')

def ofName? (codes : Codes) : Option Encoding :=
  let name := String.ofList (normalName codes)
  match names.find? (·.1 == name) with
  | some (_, encoding) => some encoding
  | none => if asciiSupersets.contains name then some (.single 0x80) else none

/-- A number in so many bytes, the lowest one first. -/
def littleEndian : Nat → Nat → Codes
  | 0, _ => []
  | width + 1, n => n % 256 :: littleEndian width (n / 256)

/-- A number in so many bytes in some order. -/
def ordered (bigEndian : Bool) (width n : Nat) : Codes :=
  if bigEndian then (littleEndian width n).reverse else littleEndian width n

/-- Whether a code point is one half of a pair, and so no character. -/
def isSurrogate (code : Nat) : Bool :=
  0xd800 ≤ code && code < 0xe000

def variableBytes (code : Nat) : Codes :=
  if code < 0x80 then [code]
  else if code < 0x800 then [0xc0 + code / 0x40, 0x80 + code % 0x40]
  else if code < 0x10000 then [0xe0 + code / 0x1000, 0x80 + code / 0x40 % 0x40, 0x80 + code % 0x40]
  else [0xf0 + code / 0x40000, 0x80 + code / 0x1000 % 0x40, 0x80 + code / 0x40 % 0x40,
    0x80 + code % 0x40]

/-- A code point as one half or two halves. -/
def halves (code : Nat) : Codes :=
  if code < 0x10000 then [code]
  else [0xd800 + (code - 0x10000) / 0x400, 0xdc00 + (code - 0x10000) % 0x400]

def rawBytes (encoding : Encoding) (code : Nat) : Codes :=
  match encoding with
  | .single _ => [code]
  | .variable _ => variableBytes code
  | .pairs bigEndian _ => (halves code).flatMap (ordered bigEndian 2)
  | .quads bigEndian _ => ordered bigEndian 4 code

def canWrite (encoding : Encoding) (code : Nat) : Bool :=
  match encoding with
  | .single bound => code < bound
  | _ => !isSurrogate code

/-- What stands in front of the bytes of a text. -/
def mark : Encoding → Codes
  | .variable true => variableBytes 0xfeff
  | .pairs bigEndian true => ordered bigEndian 2 0xfeff
  | .quads bigEndian true => ordered bigEndian 4 0xfeff
  | _ => []

/-- What is written for a code point that cannot be written, by a rule. -/
def unwritten (encoding : Encoding) (rule : Codes) (code : Nat) : Except EncodingFault Codes :=
  let name := String.ofList (toText rule)
  let ascii (codes : Codes) : Codes := codes.flatMap encoding.rawBytes
  if name = "strict" then .error .unencodable
  else if name = "ignore" then .ok []
  else if name = "replace" then .ok (ascii [63])
  else if name = "backslashreplace" then .ok (ascii (ofText (escape code)))
  else if name = "xmlcharrefreplace" then
    .ok (ascii (ofString "&#" ++ ofText (Text.ofNat code) ++ [59]))
  else if name = "surrogatepass" then
    match encoding with
    | .single _ => .error .unencodable
    | _ => .ok (encoding.rawBytes code)
  else if name = "surrogateescape" then
    match encoding with
    | .single _ | .variable _ =>
      if 0xdc80 ≤ code && code < 0xdd00 then .ok [code - 0xdc00] else .error .unencodable
    | _ => .error .unencodable
  else .error .unknownName

def encode (encoding : Encoding) (rule codes : Codes) : Except EncodingFault Codes := do
  let written ← codes.mapM fun code =>
    if encoding.canWrite code then .ok (encoding.rawBytes code) else encoding.unwritten rule code
  return encoding.mark ++ written.flatten

/-! ### Reading -/

/-- What is read for bytes that cannot be read, by a rule. -/
def unread (rule bytes : Codes) : Except EncodingFault Codes :=
  let name := String.ofList (toText rule)
  if name = "strict" || name = "surrogatepass" then .error .undecodable
  else if name = "ignore" then .ok []
  else if name = "replace" then .ok [0xfffd]
  else if name = "backslashreplace" then .ok (bytes.flatMap fun byte => ofText (escape byte))
  else if name = "surrogateescape" then
    if bytes.all (0x80 ≤ ·) then .ok (bytes.map (0xdc00 + ·)) else .error .undecodable
  else .error .unknownName

def continues (byte : Nat) : Bool :=
  0x80 ≤ byte && byte < 0xc0

/-- How many bytes follow a first byte, and the bounds of the next one. -/
def following? (byte : Nat) : Option (Nat × Nat × Nat) :=
  if 0xc2 ≤ byte && byte < 0xe0 then some (1, 0x80, 0xc0)
  else if byte = 0xe0 then some (2, 0xa0, 0xc0)
  else if byte = 0xed then some (2, 0x80, 0xa0)
  else if 0xe1 ≤ byte && byte < 0xf0 then some (2, 0x80, 0xc0)
  else if byte = 0xf0 then some (3, 0x90, 0xc0)
  else if 0xf1 ≤ byte && byte < 0xf4 then some (3, 0x80, 0xc0)
  else if byte = 0xf4 then some (3, 0x80, 0x90)
  else none

/-- Reads code points of one to four bytes. The first argument counts bytes that have been read. -/
def readVariable (rule : Codes) : Nat → Codes → Except EncodingFault Codes
  | _, [] => .ok []
  | skipped + 1, _ :: rest => readVariable rule skipped rest
  | 0, byte :: rest =>
    if byte < 0x80 then do return byte :: (← readVariable rule 0 rest)
    else match following? byte with
      | none => do return (← unread rule [byte]) ++ (← readVariable rule 0 rest)
      | some (more, low, high) =>
        let good := match rest with
          | next :: others =>
            if low ≤ next && next < high then next :: (others.take (more - 1)).takeWhile continues
            else []
          | [] => []
        if good.length = more then
          let lead := byte % Nat.pow 2 (6 - more)
          let code := good.foldl (fun n next => n * 0x40 + next % 0x40) lead
          do return code :: (← readVariable rule good.length rest)
        else do return (← unread rule (byte :: good)) ++ (← readVariable rule good.length rest)

/-- Cuts bytes into groups of a width; the last group may be shorter. -/
def groups (width : Nat) (bytes : Codes) : List Codes :=
  (List.range ((bytes.length + width - 1) / width)).map fun (i : Nat) =>
    (bytes.drop (i * width)).take width

/-- The number that bytes stand for in some order. -/
def numberOf (bigEndian : Bool) (bytes : Codes) : Nat :=
  (if bigEndian then bytes else bytes.reverse).foldl (fun n byte => n * 256 + byte) 0

/-- The second half of a pair, if a group starts with one. -/
def lowHalf? (bigEndian : Bool) : List Codes → Option Nat
  | [] => none
  | group :: _ =>
    let code := numberOf bigEndian group
    if group.length = 2 && 0xdc00 ≤ code && code < 0xe000 then some (code - 0xdc00) else none

/-- Reads code points of one or two halves. The flag says that the first group has been read. -/
def readPairs (bigEndian : Bool) (rule : Codes) : Bool → List Codes → Except EncodingFault Codes
  | _, [] => .ok []
  | true, _ :: rest => readPairs bigEndian rule false rest
  | false, group :: rest =>
    let code := numberOf bigEndian group
    if group.length = 2 && !isSurrogate code then do
      return code :: (← readPairs bigEndian rule false rest)
    else
      match if group.length = 2 && code < 0xdc00 then lowHalf? bigEndian rest else none with
      | some low => do
        return (0x10000 + (code - 0xd800) * 0x400 + low) :: (← readPairs bigEndian rule true rest)
      | none => do return (← unread rule group) ++ (← readPairs bigEndian rule false rest)

/-- Reads code points of four bytes. -/
def readQuads (bigEndian : Bool) (rule : Codes) : List Codes → Except EncodingFault Codes
  | [] => .ok []
  | group :: rest =>
    let code := numberOf bigEndian group
    if group.length = 4 && code < 0x110000 && !isSurrogate code then do
      return code :: (← readQuads bigEndian rule rest)
    else do return (← unread rule group) ++ (← readQuads bigEndian rule rest)

/-- The bytes without a mark in front, and the order that the mark tells. -/
def unmarked (width : Nat) (bigEndian : Bool) (bytes : Codes) : Bool × Codes :=
  if (ordered false width 0xfeff).isPrefixOf bytes then (false, bytes.drop width)
  else if (ordered true width 0xfeff).isPrefixOf bytes then (true, bytes.drop width)
  else (bigEndian, bytes)

def decode (encoding : Encoding) (rule bytes : Codes) : Except EncodingFault Codes :=
  match encoding with
  | .single bound => do
    let read ← bytes.mapM fun byte => if byte < bound then .ok [byte] else unread rule [byte]
    return read.flatten
  | .variable marked =>
    readVariable rule 0
      (if marked && (variableBytes 0xfeff).isPrefixOf bytes then bytes.drop 3 else bytes)
  | .pairs bigEndian marked =>
    let (order, body) := if marked then unmarked 2 bigEndian bytes else (bigEndian, bytes)
    readPairs order rule false (groups 2 body)
  | .quads bigEndian marked =>
    let (order, body) := if marked then unmarked 4 bigEndian bytes else (bigEndian, bytes)
    readQuads order rule (groups 4 body)

end Encoding

end PromptTemplate.Codes
