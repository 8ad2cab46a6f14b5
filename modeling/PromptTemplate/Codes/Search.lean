import PromptTemplate.Codes.Basic

set_option autoImplicit false

namespace PromptTemplate.Codes

/-- A bound as a position in a run of some length. It counts from the end if it is negative. -/
def clampBound (length : Nat) (bound : Int) : Nat :=
  (if bound < 0 then bound + length else bound).toNat

/-- A window of a run: where it starts and where it ends. The start may lie behind the end. -/
structure Window where
  first : Nat
  last : Nat

/-- The window of a run of some length between two bounds. -/
def Window.of (length : Nat) (first last : Option Int) : Window :=
  { first := clampBound length (first.getD 0)
    last := min length (clampBound length (last.getD length)) }

def within (window : Window) (codes : Codes) : Codes :=
  (codes.take window.last).drop window.first

/-- Positions at which a part occurs in a run, in ascending order. They may overlap. -/
def occurrences (part : Codes) (position : Nat) : Codes → List Nat
  | [] => if part.isEmpty then [position] else []
  | code :: rest =>
    if part.isPrefixOf (code :: rest) then position :: occurrences part (position + 1) rest
    else occurrences part (position + 1) rest

def find? (window : Window) (part codes : Codes) : Option Nat :=
  if window.last < window.first then none
  else (occurrences part window.first (within window codes)).head?

def findLast? (window : Window) (part codes : Codes) : Option Nat :=
  if window.last < window.first then none
  else (occurrences part window.first (within window codes)).getLast?

def startsIn (window : Window) (part codes : Codes) : Bool :=
  window.first ≤ window.last && part.isPrefixOf (within window codes)

def endsIn (window : Window) (part codes : Codes) : Bool :=
  window.first ≤ window.last && part.isSuffixOf (within window codes)

/-- The pieces of a run between occurrences of a separator, from the left, with at most so many cuts.
The first argument counts codes of an occurrence that has been read. -/
def cutAt (separator : Codes) : Nat → Option Nat → Codes → List Codes
  | _, _, [] => [[]]
  | skipped + 1, cuts, _ :: rest => cutAt separator skipped cuts rest
  | 0, cuts, code :: rest =>
    if cuts != some 0 && separator.isPrefixOf (code :: rest) then
      [] :: cutAt separator (separator.length - 1) (cuts.map (· - 1)) rest
    else match cutAt separator 0 cuts rest with
      | [] => [[code]]
      | piece :: pieces => (code :: piece) :: pieces

/-- The pieces of a run between occurrences of a separator that is not empty. -/
def splitOn (separator : Codes) (cuts : Option Nat) (codes : Codes) : List Codes :=
  cutAt separator 0 cuts codes

def splitOnLast (separator : Codes) (cuts : Option Nat) (codes : Codes) : List Codes :=
  ((cutAt separator.reverse 0 cuts codes.reverse).map List.reverse).reverse

theorem dropWhile_length_le (isBlank : Nat → Bool) (codes : Codes) :
    (codes.dropWhile isBlank).length ≤ codes.length :=
  (List.dropWhile_suffix isBlank).length_le

/-- The words of a run between blanks, with at most so many cuts. What the last cut leaves keeps the
blanks at its end. -/
def words (isBlank : Nat → Bool) (cuts : Option Nat) (codes : Codes) : List Codes :=
  match _found : codes.dropWhile isBlank with
  | [] => []
  | code :: rest =>
    if cuts = some 0 then [code :: rest]
    else
      let word := code :: rest.takeWhile (!isBlank ·)
      word :: words isBlank (cuts.map (· - 1)) (rest.dropWhile (!isBlank ·))
termination_by codes.length
decreasing_by
  have h := dropWhile_length_le isBlank codes
  rw [_found] at h
  have := dropWhile_length_le (!isBlank ·) rest
  simp at h this ⊢
  omega

def wordsLast (isBlank : Nat → Bool) (cuts : Option Nat) (codes : Codes) : List Codes :=
  ((words isBlank cuts codes.reverse).map List.reverse).reverse

/-- The part in front of the first occurrence of a separator and the part behind it. -/
def cutOnce? (separator codes : Codes) : Option (Codes × Codes) :=
  ((occurrences separator 0 codes).head?).map fun position =>
    (codes.take position, codes.drop (position + separator.length))

def cutLast? (separator codes : Codes) : Option (Codes × Codes) :=
  ((occurrences separator 0 codes).getLast?).map fun position =>
    (codes.take position, codes.drop (position + separator.length))

def join (separator : Codes) (pieces : List Codes) : Codes :=
  (pieces.intersperse separator).flatten

/-- How often a part occurs in a window. A part without content occurs next to every code. -/
def count (window : Window) (part codes : Codes) : Nat :=
  if window.last < window.first then 0
  else if part.isEmpty then window.last - window.first + 1
  else (splitOn part none (within window codes)).length - 1

/-- A run put in front of each code and at the end, with at most so many uses. -/
def interleave (inserted : Codes) : Option Nat → Codes → Codes
  | some 0, codes => codes
  | _, [] => inserted
  | uses, code :: rest => inserted ++ code :: interleave inserted (uses.map (· - 1)) rest

/-- A run with occurrences of a part replaced, from the left and with at most so many uses. -/
def replace (old new : Codes) (uses : Option Nat) (codes : Codes) : Codes :=
  if old.isEmpty then interleave new uses codes else join new (splitOn old uses codes)

def lines (isBreak : Nat → Bool) (keepEnds : Bool) : Codes → List Codes
  | [] => []
  | 13 :: 10 :: rest => (if keepEnds then [13, 10] else []) :: lines isBreak keepEnds rest
  | code :: rest =>
    if isBreak code then (if keepEnds then [code] else []) :: lines isBreak keepEnds rest
    else match lines isBreak keepEnds rest with
      | [] => [[code]]
      | line :: others => (code :: line) :: others

/-- A run with each tab filled up to the next column that the size divides. -/
def expandTabs (size : Int) : Nat → Codes → Codes
  | _, [] => []
  | column, code :: rest =>
    if code = 9 then
      if size ≤ 0 then expandTabs size column rest
      else
        let width := size.toNat - column % size.toNat
        List.replicate width 32 ++ expandTabs size (column + width) rest
    else if code = 10 || code = 13 then code :: expandTabs size 0 rest
    else code :: expandTabs size (column + 1) rest

/-- A run between fillings of some widths. -/
def pad (left right fill : Nat) (codes : Codes) : Codes :=
  List.replicate left fill ++ codes ++ List.replicate right fill

/-- A run in the middle of a width. Of an odd rest the left side gets more if the width is odd. -/
def center (width fill : Nat) (codes : Codes) : Codes :=
  let free := width - codes.length
  let left := free / 2 + (if free % 2 = 1 && width % 2 = 1 then 1 else 0)
  pad left (free - left) fill codes

def zeroFill (width : Nat) (codes : Codes) : Codes :=
  let zeros := List.replicate (width - codes.length) 48
  match codes with
  | sign :: rest => if sign = 43 || sign = 45 then sign :: zeros ++ rest else zeros ++ codes
  | [] => zeros

end PromptTemplate.Codes
