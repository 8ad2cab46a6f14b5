import PromptTemplate.Letter.NormalTable

set_option autoImplicit false

namespace PromptTemplate.Letter

def hexNumber (digits : Text) : Nat :=
  digits.foldl (fun n c => 16 * n + (if c.isDigit then c.toNat - 48 else c.toNat - 87)) 0

/-- The rows of a table, several of which stand on a line. -/
def tableRows (table : List String) : List Text :=
  table.flatMap fun line => Text.splitOn ';' line.toList

/-- A letter and a mark with the code point that stands for both. -/
def compositions : List (Nat × Nat × Nat) :=
  (tableRows compositionTable).filterMap fun row =>
    match Text.splitOn ' ' row with
    | [whole, letter, mark] => some (hexNumber letter, hexNumber mark, hexNumber whole)
    | _ => none

/-- A row of code points, first and last one, with what stands in the place of the first. -/
def expansions : List (Nat × Nat × Codes) :=
  (tableRows expansionTable).filterMap fun row =>
    match Text.splitOn ' ' row with
    | [] => none
    | ends :: meaning =>
      match Text.splitOn '-' ends with
      | [one] => some (hexNumber one, hexNumber one, meaning.map hexNumber)
      | [first, last] => some (hexNumber first, hexNumber last, meaning.map hexNumber)
      | _ => none

def firstSyllable : Nat := 0xac00

/-- The parts of a Korean syllable: a lead, a vowel, perhaps a tail. -/
def syllableParts? (code : Nat) : Option Codes :=
  if firstSyllable ≤ code && code ≤ 0xd7a3 then
    let index := code - firstSyllable
    let tail := index % 28
    some ([0x1100 + index / 588, 0x1161 + index % 588 / 28] ++
      (if tail = 0 then [] else [0x11a7 + tail]))
  else none

/-- The Korean syllable of a lead and a vowel, or of a syllable without a tail and a tail. -/
def syllableOf? (a b : Nat) : Option Nat :=
  if 0x1100 ≤ a && a < 0x1113 && 0x1161 ≤ b && b < 0x1176 then
    some (firstSyllable + ((a - 0x1100) * 21 + (b - 0x1161)) * 28)
  else if firstSyllable ≤ a && a ≤ 0xd7a3 && (a - firstSyllable) % 28 = 0 && 0x11a7 < b &&
      b < 0x11c3 then
    some (a + (b - 0x11a7))
  else none

/-- What stands in the place of a code point, one step far. -/
def expandOnce (code : Nat) : Codes :=
  match syllableParts? code with
  | some parts => parts
  | none =>
    match compositions.find? fun (_, _, whole) => whole == code with
    | some (letter, mark, _) => [letter, mark]
    | none =>
      match expansions.find? fun (first, last, _) => first ≤ code && code ≤ last with
      | some (first, _, [one]) => [one + (code - first)]
      | some (_, _, meaning) => meaning
      | none => [code]

def expansionSteps : Nat := 6

def expand (codes : Codes) : Codes :=
  expansionSteps.repeat (fun expanded => expanded.flatMap expandOnce) codes

def markClass (code : Nat) : Nat :=
  match markClasses.find? fun (first, last, _) => first ≤ code && code ≤ last with
  | some (_, _, order) => order
  | none => 0

/-- A mark put in its place in front of marks in order. -/
def placeMark (mark : Nat) : Codes → Codes
  | [] => [mark]
  | code :: rest =>
    if markClass code != 0 && markClass code < markClass mark then code :: placeMark mark rest
    else mark :: code :: rest

/-- A run with the marks behind each letter in the order of their classes. Marks of one class keep their
order. -/
def orderMarks : Codes → Codes
  | [] => []
  | code :: rest =>
    if markClass code = 0 then code :: orderMarks rest else placeMark code (orderMarks rest)

/-- The code point for two others. -/
def composed? (letter mark : Nat) : Option Nat :=
  match syllableOf? letter mark with
  | some whole => some whole
  | none => (compositions.find? fun (a, b, _) => a == letter && b == mark).map (·.2.2)

/-- Composes a letter with the marks behind it. The second argument holds marks that stay, last one
first: a mark does not pass one of its own class. -/
def compose (letter : Nat) (kept : Codes) : Codes → Codes
  | [] => letter :: kept.reverse
  | code :: rest =>
    let free := match kept with
      | [] => true
      | last :: _ => markClass last < markClass code
    match if free then composed? letter code else none with
    | some whole => compose whole kept rest
    | none =>
      if markClass code = 0 then letter :: kept.reverse ++ compose code [] rest
      else compose letter (code :: kept) rest

def normalForm (codes : Codes) : Codes :=
  match orderMarks (expand codes) with
  | [] => []
  | code :: rest => compose code [] rest

def normalIdentifier (name : Text) : Text :=
  if name.all (·.toNat < 0x80) then name else Codes.toText (normalForm (Codes.ofText name))

end PromptTemplate.Letter
