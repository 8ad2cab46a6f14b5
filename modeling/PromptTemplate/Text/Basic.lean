set_option autoImplicit false

namespace PromptTemplate

/-- A text as its code points, so that every count is a count of code points. -/
abbrev Text := List Char

namespace Text

/-- The code points that count as white space, as closed ranges in ascending order. -/
def blankRanges : List (Nat × Nat) :=
  [(0x09, 0x0D), (0x1C, 0x20), (0x85, 0x85), (0xA0, 0xA0), (0x1680, 0x1680), (0x2000, 0x200A),
    (0x2028, 0x2029), (0x202F, 0x202F), (0x205F, 0x205F), (0x3000, 0x3000)]

/-- A character is blank if a blank range holds its code point. -/
def isBlankChar (c : Char) : Bool :=
  blankRanges.any fun range => range.1 ≤ c.toNat && c.toNat ≤ range.2

def isBlank (text : Text) : Bool :=
  text.all isBlankChar

/-- Word characters are the ASCII letters and digits and the underscore. -/
def isWordChar (c : Char) : Bool :=
  c.isAlphanum || c == '_'

/-- The text without its leading blank characters. -/
def trimStart (text : Text) : Text :=
  text.dropWhile isBlankChar

/-- The text without its trailing blank characters. -/
def trimEnd (text : Text) : Text :=
  (text.reverse.dropWhile isBlankChar).reverse

/-- The text without the blank characters at both ends. -/
def trim (text : Text) : Text :=
  trimEnd (trimStart text)

def tidied (texts : List Text) : List Text :=
  (texts.map trim).filter (!·.isEmpty)

/-- Writes one space for each maximal blank run. The flag says that the character before belonged to
a run whose space is already written. -/
def squeeze : Bool → Text → Text
  | _, [] => []
  | inRun, c :: rest =>
    if isBlankChar c then
      if inRun then squeeze true rest else ' ' :: squeeze true rest
    else c :: squeeze false rest

/-- Every maximal blank run becomes one space, and both ends are trimmed. -/
def collapse (text : Text) : Text :=
  trim (squeeze false text)

/-- Cuts a text at every occurrence of a separator. There is one piece more than separators. -/
def splitOn (separator : Char) : Text → List Text
  | [] => [[]]
  | c :: rest =>
    if c = separator then [] :: splitOn separator rest
    else match splitOn separator rest with
      | [] => [[c]]
      | piece :: pieces => (c :: piece) :: pieces

def join (separator : Text) (pieces : List Text) : Text :=
  (pieces.intersperse separator).flatten

/-- Whether one text comes before another by code points, or is the same. -/
def precedes : Text → Text → Bool
  | [], _ => true
  | _ :: _, [] => false
  | a :: as, b :: bs => a.toNat < b.toNat || (a == b && precedes as bs)

def isLineBreak (c : Char) : Bool :=
  c == '\n' || c == '\r' || c == '\x0b' || c == '\x0c' || c == '\x1c' || c == '\x1d' || c == '\x1e' ||
    c == '\u0085' || c == '\u2028' || c == '\u2029'

def lines : Text → List Text
  | [] => []
  | '\r' :: '\n' :: rest => [] :: lines rest
  | c :: rest =>
    if isLineBreak c then [] :: lines rest
    else match lines rest with
      | [] => [[c]]
      | line :: others => (c :: line) :: others

/-- Writes every line end, also a carriage return or one with a line feed, as a line feed. -/
def normaliseBreaks : Text → Text
  | [] => []
  | '\r' :: '\n' :: rest => '\n' :: normaliseBreaks rest
  | c :: rest => (if c = '\r' then '\n' else c) :: normaliseBreaks rest

def contentLines (text : Text) : List Text :=
  tidied (lines text)

/-- The decimal numeral of a natural number. -/
def ofNat (n : Nat) : Text :=
  Nat.toDigits 10 n

/-- The decimal numeral of an integer. -/
def ofInt (n : Int) : Text :=
  if n < 0 then '-' :: ofNat n.natAbs else ofNat n.natAbs

/-- The code points of the digit zero of every script. -/
def digitZeros : List Nat :=
  [0x30, 0x660, 0x6f0, 0x7c0, 0x966, 0x9e6, 0xa66, 0xae6, 0xb66, 0xbe6, 0xc66, 0xce6, 0xd66, 0xde6,
    0xe50, 0xed0, 0xf20, 0x1040, 0x1090, 0x17e0, 0x1810, 0x1946, 0x19d0, 0x1a80, 0x1a90, 0x1b50,
    0x1bb0, 0x1c40, 0x1c50, 0xa620, 0xa8d0, 0xa900, 0xa9d0, 0xa9f0, 0xaa50, 0xabf0, 0xff10, 0x104a0,
    0x10d30, 0x11066, 0x110f0, 0x11136, 0x111d0, 0x112f0, 0x11450, 0x114d0, 0x11650, 0x116c0,
    0x11730, 0x118e0, 0x11950, 0x11c50, 0x11d50, 0x11da0, 0x16a60, 0x16ac0, 0x16b50, 0x1d7ce,
    0x1d7d8, 0x1d7e2, 0x1d7ec, 0x1d7f6, 0x1e140, 0x1e2f0, 0x1e950, 0x1fbf0]

def digitValue? (c : Char) : Option Nat :=
  (digitZeros.find? fun first => first ≤ c.toNat && c.toNat < first + 10).map (c.toNat - ·)

def maxDigits : Nat := 4300

/-- The least number with too many digits for a numeral. -/
def leastUnnumbered : Nat :=
  Nat.pow 10 maxDigits

/-- Whether an integer has few enough digits for a numeral. -/
def hasNumeral (n : Int) : Bool :=
  n.natAbs < leastUnnumbered

theorem hasNumeral_iff {n : Int} : hasNumeral n = true ↔ n.natAbs < leastUnnumbered := by
  rw [hasNumeral, decide_eq_true_eq]

theorem hasNumeral_natCast_iff {n : Nat} : hasNumeral (n : Int) = true ↔ n < leastUnnumbered := by
  rw [hasNumeral_iff, Int.natAbs_natCast]

theorem hasNumeral_of_le {m : Int} {n : Nat} (nonneg : 0 ≤ m) (le : m ≤ n) (short : hasNumeral (n : Int) = true) :
    hasNumeral m = true := by
  rw [hasNumeral_natCast_iff] at short
  rw [hasNumeral_iff]
  omega

-- The power of ten in it is not to be computed where a number is only passed on.
attribute [irreducible] hasNumeral

theorem splitOn_ne_nil (separator : Char) (text : Text) : splitOn separator text ≠ [] := by
  cases text with
  | nil => simp [splitOn]
  | cons c rest =>
      simp only [splitOn]
      split
      · simp
      · split <;> simp

end Text

end PromptTemplate
