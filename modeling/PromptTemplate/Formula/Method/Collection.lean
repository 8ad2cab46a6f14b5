import PromptTemplate.Formula.Method.Text

set_option autoImplicit false

namespace PromptTemplate.Formula.CollectionMethod

open Operand

def silent {α : Type} (least most : Nat) (check : α → List Operand → Except Fault Unit) (a : α)
    (arguments : Arguments) : Except Fault Operand := do
  check a (← arguments.listed least most)
  return .nothing

def itemsOf (a : Operand) : Except Fault (List Operand) :=
  match a.items? with
  | some items => .ok items
  | none => .error .wrongType

/-- How often a value occurs. -/
def count (items : List Operand) (arguments : Arguments) : Except Fault Operand := do
  match ← arguments.listed 1 1 with
  | value :: _ => return .int ((items.filter (same value)).length : Nat)
  | [] => throw .wrongType

/-- The first position of a value between two bounds. -/
def index (items : List Operand) (arguments : Arguments) : Except Fault Operand := do
  match ← arguments.listed 1 3 with
  | value :: bounds =>
    let first ← match bounds[0]? with
      | some first => first.index
      | none => pure 0
    let last ← match bounds[1]? with
      | some last => last.index
      | none => pure (items.length : Int)
    let start := Codes.clampBound items.length first
    let stop := Codes.clampBound items.length last
    match ((items.take stop).drop start).findIdx? (same value) with
    | some position => return .int ((start + position : Nat) : Int)
    | none => throw .wrongValue
  | [] => throw .wrongType

/-- Takes an item out, the last one if no index is given. -/
def pop (items : List Operand) (arguments : Arguments) : Except Fault Operand := do
  let position ← match ← arguments.listed 0 1 with
    | position :: _ => position.size
    | [] => pure (-1)
  itemAt items position

/-- Whether two values can be put in order. -/
def comparable : Operand → Operand → Bool
  | .text _, .text _ | .bytes _, .bytes _ | .list _, .list _ | .tuple _, .tuple _ => true
  | a, b => a.isNumber && b.isNumber && !a.isComplex && !b.isComplex

/-- Whether neighbours can be put in order. -/
def allComparable : List Operand → Bool
  | a :: b :: rest => comparable a b && allComparable (b :: rest)
  | _ => true

/-- Puts items in order, perhaps by what a method gives for each. -/
def sort (apply : Operand → Operand → Except Fault Operand) (items : List Operand)
    (arguments : Arguments) : Except Fault Operand := do
  let given ← arguments.bound ["key", "reverse"] 0 0
  let _ ← match given[1]?.join with
    | some reversed => reversed.smallSize
    | none => pure 0
  let keys ← match given[0]?.join.getD Operand.nothing with
    | .nothing => pure items
    | key => items.mapM (apply key)
  if allComparable keys then return .nothing else throw .wrongType

def tupleMethods : List (String × (List Operand → Arguments → Except Fault Operand)) :=
  [("count", count), ("index", index)]

/-- The methods of lists; the first argument says how a method is called. -/
def listMethods (apply : Operand → Operand → Except Fault Operand) :
    List (String × (List Operand → Arguments → Except Fault Operand)) :=
  [("append", silent 1 1 fun _ _ => .ok ()),
    ("clear", silent 0 0 fun _ _ => .ok ()),
    ("copy", fun items arguments => do
      let _ ← arguments.listed 0 0
      return .list items),
    ("count", count),
    ("extend", silent 1 1 fun _ given => given.forM fun a => do let _ ← itemsOf a),
    ("index", index),
    ("insert", silent 2 2 fun _ given => do
      let _ ← (given[0]?.getD Operand.nothing).size),
    ("pop", pop),
    ("remove", silent 1 1 fun items given =>
      if given.all fun value => items.any (same value) then .ok () else .error .wrongValue),
    ("reverse", silent 0 0 fun _ _ => .ok ()),
    ("sort", sort apply)]

abbrev Entries := List (Operand × Operand)

/-- The value of the key that comes first in the arguments; what follows it stands in for a missing
one. -/
def lookUp (missing : Option Operand → Except Fault Operand) (entries : Entries)
    (arguments : Arguments) : Except Fault Operand := do
  match ← arguments.listed 1 2 with
  | key :: instead =>
    if !key.isKey then throw .wrongType
    match entry? entries key with
    | some value => return value
    | none => missing instead.head?
  | [] => throw .wrongType

def popItem (entries : Entries) (arguments : Arguments) : Except Fault Operand := do
  let _ ← arguments.listed 0 0
  match entries.getLast? with
  | some (key, value) => return .tuple [key, value]
  | none => throw .missingKey

def fromKeys (arguments : Arguments) : Except Fault Operand := do
  match ← arguments.listed 1 2 with
  | keys :: value =>
    let keys ← itemsOf keys
    if !keys.all isKey then throw .wrongType
    let value := value.head?.getD Operand.nothing
    return .dict (keys.foldl (fun entries key => TextMethod.insertEntry key value entries) [])
  | [] => throw .wrongType

/-- Checks that a value gives entries: that it is a dictionary, or holds pairs whose first can be a
key. -/
def update (_ : Entries) (arguments : Arguments) : Except Fault Operand := do
  match arguments.positional with
  | [] | [.dict _] => return .nothing
  | [given] =>
    for pair in ← itemsOf given do
      match ← itemsOf pair with
      | [key, _] => if !key.isKey then throw .wrongType
      | _ => throw .wrongValue
    return .nothing
  | _ => throw .wrongType

def part (which : DictPart) (entries : Entries) (arguments : Arguments) : Except Fault Operand := do
  let _ ← arguments.listed 0 0
  return .view which entries

def dictMethods : List (String × (Entries → Arguments → Except Fault Operand)) :=
  [("clear", silent 0 0 fun _ _ => .ok ()),
    ("copy", fun entries arguments => do
      let _ ← arguments.listed 0 0
      return .dict entries),
    ("fromkeys", fun _ => fromKeys),
    ("get", lookUp fun instead => .ok (instead.getD Operand.nothing)),
    ("items", part .items),
    ("keys", part .keys),
    ("pop", lookUp fun instead =>
      match instead with
      | some value => .ok value
      | none => .error .missingKey),
    ("popitem", popItem),
    ("setdefault", lookUp fun instead => .ok (instead.getD Operand.nothing)),
    ("update", update),
    ("values", part .values)]

/-- Whether a part of a dictionary has no item in common with another collection. -/
def isDisjoint (which : DictPart) (entries : Entries) (arguments : Arguments) :
    Except Fault Operand := do
  match ← arguments.listed 1 1 with
  | other :: _ =>
    let others ← itemsOf other
    if !others.all isKey then throw .wrongType
    return .bool (!(partItems which entries).any fun item => others.any (same item))
  | [] => throw .wrongType

end PromptTemplate.Formula.CollectionMethod
