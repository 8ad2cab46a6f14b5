import PromptTemplate.Value.Basic

set_option autoImplicit false

namespace PromptTemplate.Value

def codeModulus : Nat := Nat.pow 2 61 - 1

/-- A code of a number from the remainder of its magnitude. No code is -1. -/
def signedCode (negative : Bool) (remainder : Nat) : Int :=
  if negative then if remainder = 1 then -2 else -(remainder : Int) else remainder

def numberCode? : Value → Option Int
  | .bool b => some (if b then 1 else 0)
  | .int n => some (signedCode (n < 0) (n.natAbs % codeModulus))
  | .float x =>
    match Decimal.Reading.ofFloat x with
    | .finite negative magnitude =>
      let twos := (magnitude.exponent % 61).toNat
      some (signedCode negative (magnitude.significand * Nat.pow 2 twos % codeModulus))
    | .infinite negative => some (if negative then -314159 else 314159)
    | .nan => none
  | _ => none

/-- The smallest power of two, at least the given one, that is larger than a number. -/
def tableSize (least : Nat) : Nat → Nat → Nat
  | 0, _ => least
  | fuel + 1, count => if count < least then least else tableSize (2 * least) fuel count

def sizeFor (count : Nat) : Nat :=
  if count * 5 < 21 then 8 else tableSize 8 (2 * count) (2 * count)

/-- How many neighbours of a place are looked at. -/
def neighbours : Nat := 9

def freePlace (taken : Nat → Bool) (size : Nat) : Nat → Nat → Nat → Option Nat
  | 0, _, _ => none
  | fuel + 1, place, rest =>
    let reach := if place + neighbours < size then neighbours else 0
    match (List.range (reach + 1)).find? fun step => !taken (place + step) with
    | some step => some (place + step)
    | none =>
      let rest := rest / 32
      freePlace taken size fuel ((place * 5 + 1 + rest) % size) rest

def placeAll (size : Nat) (table : Array (Option Value)) : List (Value × Int) → Array (Option Value)
  | [] => table
  | (value, code) :: rest =>
    let start := (code % Nat.pow 2 64).toNat
    let isTaken (place : Nat) : Bool := (table.getD place none).isSome
    match freePlace isTaken size (size + 64) (start % size) start with
    | some place => placeAll size (table.setIfInBounds place (some value)) rest
    | none => placeAll size (table.push (some value)) rest

/-- The values of a set in the order in which they are gone through, which for others than numbers is that
in which they are given. -/
def setOrder (items : List Value) : List Value :=
  match items.mapM fun item => (numberCode? item).map (item, ·) with
  | none => items
  | some coded =>
    let size := sizeFor coded.length
    (placeAll size (Array.replicate size none) coded).toList.filterMap id

end PromptTemplate.Value
