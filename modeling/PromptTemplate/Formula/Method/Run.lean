import PromptTemplate.Formula.Method.Arguments

set_option autoImplicit false

namespace PromptTemplate.Formula

/-- What texts and bytes do each in a way of its own. -/
structure RunKind where
  wrap : Codes → Operand
  /-- The codes of a value of this kind. -/
  codes : Operand → Except Fault Codes
  /-- The codes of a part that is looked for. -/
  part : Operand → Except Fault Codes
  isBlank : Nat → Bool
  isBreak : Nat → Bool

namespace RunKind

def isByte (n : Int) : Bool :=
  0 ≤ n && n < 256

def text : RunKind where
  wrap := .text
  codes := Operand.codes
  part := Operand.codes
  isBlank := Codes.isBlank
  isBreak := Codes.isBreak

def codesOfBytes : Operand → Except Fault Codes
  | .bytes codes => .ok codes
  | _ => .error .wrongType

/-- The kind of bytes. A single byte can be looked for by its number. -/
def bytes : RunKind where
  wrap := .bytes
  codes := codesOfBytes
  part a :=
    match a.int? with
    | some n => if isByte n then .ok [n.toNat] else .error .wrongValue
    | none => codesOfBytes a
  isBlank := Codes.isBlankByte
  isBreak := Codes.isBreakByte

def window (codes : Codes) (bounds : List Operand) : Except Fault Codes.Window := do
  let first ← (bounds[0]?.getD Operand.nothing).bound
  let last ← (bounds[1]?.getD Operand.nothing).bound
  return .of codes.length first last

/-- A position as a value; a missing one is minus one. -/
def position (found : Option Nat) : Operand :=
  .int (match found with
    | some n => n
    | none => -1)

/-- Looks for a part that the arguments name, within their bounds. -/
def search {α : Type} (kind : RunKind) (look : Codes.Window → Codes → Codes → α) (codes : Codes)
    (arguments : Arguments) : Except Fault α := do
  match ← arguments.listed 1 3 with
  | part :: bounds =>
    let window ← window codes bounds
    return look window (← kind.part part) codes
  | [] => throw .wrongType

/-- Whether one of some parts stands where a test looks for it; the parts behind it are not looked at. -/
def anyPart (kind : RunKind) (test : Codes → Bool) : List Operand → Except Fault Bool
  | [] => .ok false
  | part :: rest => do if test (← kind.codes part) then return true else anyPart kind test rest

/-- Tests one end of a run for a part or for one of several parts. -/
def testEnd (kind : RunKind) (test : Codes.Window → Codes → Codes → Bool) (codes : Codes)
    (arguments : Arguments) : Except Fault Operand := do
  match ← arguments.listed 1 3 with
  | part :: bounds =>
    let window ← window codes bounds
    let parts := match part with
      | .tuple parts => parts
      | part => [part]
    return .bool (← anyPart kind (fun part => test window part codes) parts)
  | [] => throw .wrongType

def filled (kind : RunKind) (fill : Nat → Nat → Codes → Codes) (codes : Codes)
    (arguments : Arguments) : Except Fault Operand := do
  match ← arguments.listed 1 2 with
  | width :: filler =>
    let width ← width.size
    let filler ← match filler with
      | [] => pure [32]
      | filler :: _ => kind.codes filler
    match filler with
    | [code] =>
      if Operand.maxStored < width.toNat then throw .tooLarge
      return kind.wrap (fill width.toNat code codes)
    | _ => throw .wrongType
  | [] => throw .wrongType

/-- A run without blanks, or without the given codes, at its ends. -/
def stripped (kind : RunKind) (left right : Bool) (codes : Codes) (arguments : Arguments) :
    Except Fault Operand := do
  let isStripped ← match ← arguments.listed 0 1 with
    | [] | [.nothing] => pure kind.isBlank
    | chosen :: _ => do
      let chosen ← kind.codes chosen
      pure chosen.contains
  return kind.wrap (Codes.strip left right isStripped codes)

def pieces (kind : RunKind) (byWords : (Nat → Bool) → Option Nat → Codes → List Codes)
    (bySeparator : Codes → Option Nat → Codes → List Codes) (codes : Codes)
    (arguments : Arguments) : Except Fault Operand := do
  let given ← arguments.bound ["sep", "maxsplit"] 0 2
  let cuts ← match given[1]?.join with
    | some most => do
      let most ← most.size
      pure (if most < 0 then none else some most.toNat)
    | none => pure none
  match given[0]?.join.getD Operand.nothing with
  | .nothing => return .list ((byWords kind.isBlank cuts codes).map kind.wrap)
  | separator =>
    let separator ← kind.codes separator
    if separator.isEmpty then throw .wrongValue
    return .list ((bySeparator separator cuts codes).map kind.wrap)

def parts (kind : RunKind) (cut : Codes → Codes → Option (Codes × Codes)) (last : Bool)
    (codes : Codes) (arguments : Arguments) : Except Fault Operand := do
  match ← arguments.listed 1 1 with
  | separator :: _ =>
    let separator ← kind.codes separator
    if separator.isEmpty then throw .wrongValue
    let three := match cut separator codes with
      | some (before, after) => [before, separator, after]
      | none => if last then [[], [], codes] else [codes, [], []]
    return .tuple (three.map kind.wrap)
  | [] => throw .wrongType

def replaced (kind : RunKind) (codes : Codes) (arguments : Arguments) : Except Fault Operand := do
  match ← arguments.listed 2 3 with
  | old :: new :: most =>
    let old ← kind.codes old
    let new ← kind.codes new
    let uses ← match most with
      | [] => pure none
      | most :: _ => do
        let most ← most.size
        pure (if most < 0 then none else some most.toNat)
    return kind.wrap (Codes.replace old new uses codes)
  | _ => throw .wrongType

def joined (kind : RunKind) (codes : Codes) (arguments : Arguments) : Except Fault Operand := do
  match ← arguments.listed 1 1 with
  | given :: _ =>
    match given.items? with
    | some items => return kind.wrap (Codes.join codes (← items.mapM kind.codes))
    | none => throw .wrongType
  | [] => throw .wrongType

def tabsExpanded (kind : RunKind) (codes : Codes) (arguments : Arguments) : Except Fault Operand := do
  let given ← arguments.bound ["tabsize"] 0 1
  let size ← match given[0]?.join with
    | some size => size.smallSize
    | none => pure 8
  if Operand.maxStored < (codes.filter (· == 9)).length * size.toNat then throw .tooLarge
  return kind.wrap (Codes.expandTabs size 0 codes)

def linesOf (kind : RunKind) (codes : Codes) (arguments : Arguments) : Except Fault Operand := do
  let given ← arguments.bound ["keepends"] 0 1
  let keepEnds ← match given[0]?.join with
    | some flag => do
      let flag ← flag.smallSize
      pure (flag != 0)
    | none => pure false
  return .list ((Codes.lines kind.isBreak keepEnds codes).map kind.wrap)

def zeroFilled (kind : RunKind) (codes : Codes) (arguments : Arguments) : Except Fault Operand := do
  match ← arguments.listed 1 1 with
  | width :: _ =>
    let width ← width.size
    if Operand.maxStored < width.toNat then throw .tooLarge
    return kind.wrap (Codes.zeroFill width.toNat codes)
  | [] => throw .wrongType

def withoutEnd (kind : RunKind) (cut : Codes → Codes → Codes) (codes : Codes)
    (arguments : Arguments) : Except Fault Operand := do
  match ← arguments.listed 1 1 with
  | part :: _ => return kind.wrap (cut (← kind.codes part) codes)
  | [] => throw .wrongType

/-- Refuses a missing position. -/
def required (found : Option Nat) : Except Fault Operand :=
  match found with
  | some n => .ok (.int n)
  | none => .error .wrongValue

/-- The methods that texts and bytes have in common. -/
def methods : List (String × (RunKind → Codes → Arguments → Except Fault Operand)) :=
  [("center", fun kind => kind.filled Codes.center),
    ("ljust", fun kind => kind.filled fun width fill codes =>
      Codes.pad 0 (width - codes.length) fill codes),
    ("rjust", fun kind => kind.filled fun width fill codes =>
      Codes.pad (width - codes.length) 0 fill codes),
    ("count", fun kind codes arguments => do
      return .int (← kind.search Codes.count codes arguments : Nat)),
    ("find", fun kind codes arguments => do
      return position (← kind.search Codes.find? codes arguments)),
    ("rfind", fun kind codes arguments => do
      return position (← kind.search Codes.findLast? codes arguments)),
    ("index", fun kind codes arguments => do required (← kind.search Codes.find? codes arguments)),
    ("rindex", fun kind codes arguments => do
      required (← kind.search Codes.findLast? codes arguments)),
    ("startswith", fun kind => kind.testEnd Codes.startsIn),
    ("endswith", fun kind => kind.testEnd Codes.endsIn),
    ("strip", fun kind => kind.stripped true true),
    ("lstrip", fun kind => kind.stripped true false),
    ("rstrip", fun kind => kind.stripped false true),
    ("split", fun kind => kind.pieces Codes.words Codes.splitOn),
    ("rsplit", fun kind => kind.pieces Codes.wordsLast Codes.splitOnLast),
    ("partition", fun kind => kind.parts Codes.cutOnce? false),
    ("rpartition", fun kind => kind.parts Codes.cutLast? true),
    ("replace", replaced),
    ("join", joined),
    ("expandtabs", tabsExpanded),
    ("splitlines", linesOf),
    ("zfill", zeroFilled),
    ("removeprefix", fun kind => kind.withoutEnd fun part codes =>
      if part.isPrefixOf codes then codes.drop part.length else codes),
    ("removesuffix", fun kind => kind.withoutEnd fun part codes =>
      if part.isSuffixOf codes then codes.take (codes.length - part.length) else codes)]

end RunKind

end PromptTemplate.Formula
