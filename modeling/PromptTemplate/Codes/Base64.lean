import PromptTemplate.Codes.Basic

set_option autoImplicit false

namespace PromptTemplate.Codes.Base64

/-- Why characters stand for no bytes. -/
inductive Fault where
  /-- A single character is left over, behind so many in all. -/
  | strayDigit (count : Nat)
  | missingPadding
  deriving DecidableEq, Repr

/-- The six bits that a character stands for. -/
def digit? (c : Char) : Option Nat :=
  if 'A' ≤ c && c ≤ 'Z' then some (c.toNat - 'A'.toNat)
  else if 'a' ≤ c && c ≤ 'z' then some (c.toNat - 'a'.toNat + 26)
  else if '0' ≤ c && c ≤ '9' then some (c.toNat - '0'.toNat + 52)
  else if c = '+' then some 62
  else if c = '/' then some 63
  else none

/-- What has been read of a group of four, and how much padding behind it. -/
structure Group where
  digits : List Nat := []
  padding : Nat := 0
  deriving DecidableEq, Repr

def Group.completes (group : Group) (digit : Nat) : Codes :=
  match group.digits.getLast? with
  | none => []
  | some last =>
    match group.digits.length with
    | 1 => [last * 4 + digit / 16]
    | 2 => [last % 16 * 16 + digit / 4]
    | _ => [last % 4 * 64 + digit]

def Group.add (group : Group) (digit : Nat) : Group :=
  if group.digits.length = 3 then {} else { digits := group.digits ++ [digit] }

/-- The bytes that characters stand for, from within a group on; the number counts the digits so far. -/
def decodeFrom (group : Group) (count : Nat) : Text → Except Fault Codes
  | [] =>
    match group.digits.length with
    | 0 => .ok []
    | 1 => .error (.strayDigit count)
    | _ => .error .missingPadding
  | c :: rest =>
    if c = '=' then
      let known := group.digits.length
      if 2 ≤ known then
        if 4 ≤ known + group.padding + 1 then .ok []
        else decodeFrom { group with padding := group.padding + 1 } count rest
      else decodeFrom group count rest
    else match digit? c with
      | none => decodeFrom group count rest
      | some digit =>
        (decodeFrom (group.add digit) (count + 1) rest).map (group.completes digit ++ ·)

/-- The bytes that characters stand for. -/
def decode (text : Text) : Except Fault Codes :=
  decodeFrom {} 0 text

end PromptTemplate.Codes.Base64
