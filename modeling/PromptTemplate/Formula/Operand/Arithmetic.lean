import PromptTemplate.Formula.Operand.Printer

set_option autoImplicit false

namespace PromptTemplate.Formula.Operand

/-- Beyond this magnitude a base or an exponent is not tried. -/
def maxPower : Nat := 4000000

/-- An operation on two numbers: exact on integers, else on floats or on complex numbers. -/
def arithmetic (exact : Int → Int → Operand) (rounded : Float → Float → Operand)
    (general : Complex → Complex → Operand) (a b : Operand) : Except Fault Operand :=
  match a.int?, b.int? with
  | some m, some n => .ok (exact m n)
  | _, _ =>
    if a.isNumber && b.isNumber then
      if a.isComplex || b.isComplex then do return general (← a.complex?) (← b.complex?)
      else do return rounded (← a.real?) (← b.real?)
    else .error .wrongType

/-- The items of a collection repeated. A negative count repeats them no time. -/
def repeated {α : Type} (tooMany : Fault) (items : List α) (count : Int) :
    Except Fault (List α) :=
  if maxSize < (if count < 0 then count.natAbs - 1 else count.natAbs) then .error .overflow
  else if items.isEmpty || count ≤ 0 then .ok []
  else if maxSize < items.length * count.natAbs then .error tooMany
  else if maxStored < items.length * count.natAbs then .error .tooLarge
  else .ok (List.replicate count.natAbs items).flatten

/-- A collection repeated, or none for a value that is no collection. -/
def repeat? (a : Operand) (count : Int) : Option (Except Fault Operand) :=
  match a with
  | .text codes => some ((repeated .overflow codes count).map .text)
  | .bytes codes => some ((repeated .overflow codes count).map .bytes)
  | .list items => some ((repeated .tooLarge items count).map .list)
  | .tuple items => some ((repeated .tooLarge items count).map .tuple)
  | _ => none

/-- The sum of numbers, or two collections of one kind one behind the other. -/
def add : Operand → Operand → Except Fault Operand
  | .text s, .text t => .ok (.text (s ++ t))
  | .bytes s, .bytes t => .ok (.bytes (s ++ t))
  | .list xs, .list ys => .ok (.list (xs ++ ys))
  | .tuple xs, .tuple ys => .ok (.tuple (xs ++ ys))
  | a, b =>
    arithmetic (fun m n => .int (m + n)) (fun x y => .float (x + y)) (fun x y => .complex (x.add y))
      a b

def sub : Operand → Operand → Except Fault Operand :=
  arithmetic (fun m n => .int (m - n)) (fun x y => .float (x - y)) (fun x y => .complex (x.sub y))

/-- The product of numbers, or a collection repeated. -/
def mul (a b : Operand) : Except Fault Operand :=
  match a.int?, b.int? with
  | some m, none =>
    match repeat? b m with
    | some result => result
    | none => product
  | none, some n =>
    match repeat? a n with
    | some result => result
    | none => product
  | _, _ => product
where
  /-- The product of numbers. -/
  product : Except Fault Operand :=
    arithmetic (fun m n => .int (m * n)) (fun x y => .float (x * y)) (fun x y => .complex (x.mul y))
      a b

/-- The quotient of numbers, never an integer. -/
def div (a b : Operand) : Except Fault Operand :=
  match a.int?, b.int? with
  | some m, some n =>
    if n = 0 then .error .divisionByZero
    else match Decimal.floatOfQuotient? (xor (m < 0) (n < 0)) m.natAbs n.natAbs with
      | some x => .ok (.float x)
      | none => .error .overflow
  | _, _ =>
    if a.isNumber && b.isNumber then
      if a.isComplex || b.isComplex then do
        match (← a.complex?).div? (← b.complex?) with
        | some z => return .complex z
        | none => throw .complexDivisionByZero
      else do
        let x ← a.real?
        let y ← b.real?
        if y == 0.0 then throw .floatDivisionByZero else return .float (x / y)
    else .error .wrongType

def isOdd (x : Float) : Bool :=
  x.floor == x && (x / 2.0).floor != x / 2.0

def complexPow (a b : Complex) : Except Fault Operand :=
  match a.pow b with
  | .ok z => .ok (.complex z)
  | .error .zeroBase => .error .zeroToComplexPower
  | .error .overflow => .error .overflow

/-- The power of floats. A negative base with a broken exponent leaves the real numbers. -/
def floatPow (x y : Float) : Except Fault Operand :=
  if y == 0.0 then .ok (.float 1.0)
  else if x.isNaN then .ok (.float x)
  else if y.isNaN then .ok (.float (if x == 1.0 then 1.0 else y))
  else if x == 0.0 then
    if y < 0.0 then .error .zeroToNegativePower
    else .ok (.float (if isOdd y then x else 0.0))
  else if x < 0.0 && y.floor != y then complexPow ⟨x, 0.0⟩ ⟨y, 0.0⟩
  else
    let magnitude := Float.pow x.abs y
    if magnitude.isInf then .error .overflow
    else .ok (.float (if x < 0.0 && isOdd y then -magnitude else magnitude))

/-- Whether a number is too large for a power. -/
def passesPower : Operand → Except Fault Bool
  | .int n => .ok (maxPower < n.natAbs)
  | .bool _ => .ok false
  | .float x => .ok (4000000.0 < x.abs)
  | .complex z =>
    match Decimal.length? z.re z.im with
    | some size => .ok (4000000.0 < size)
    | none => .error .overflow
  | _ => .error .wrongType

def powerFault (a b : Operand) : Fault :=
  match a.plain, b.plain with
  | .ok base, .ok exponent => .powerTooHigh (Codes.toText base) (Codes.toText exponent)
  | .error fault, _ | _, .error fault => fault

/-- The power of numbers, unless one of them is too large. -/
def pow (a b : Operand) : Except Fault Operand := do
  if ← a.passesPower then throw (powerFault a b)
  if ← b.passesPower then throw (powerFault a b)
  match a.int?, b.int? with
  | some m, some n =>
    if 0 ≤ n then return .int (m.pow n.toNat)
    else floatPow (← a.real?) (← b.real?)
  | _, _ =>
    if a.isComplex || b.isComplex then complexPow (← a.complex?) (← b.complex?)
    else floatPow (← a.real?) (← b.real?)

def neg : Operand → Except Fault Operand
  | .float x => .ok (.float (-x))
  | .complex z => .ok (.complex z.neg)
  | a =>
    match a.int? with
    | some n => .ok (.int (-n))
    | none => .error .wrongType

/-- The number itself; a truth value becomes an integer. -/
def pos : Operand → Except Fault Operand
  | .float x => .ok (.float x)
  | .complex z => .ok (.complex z)
  | a =>
    match a.int? with
    | some n => .ok (.int n)
    | none => .error .wrongType

/-- The ASCII text that bytes spell, if they do; blanks around it are left out. -/
def asciiOfBytes? (codes : Codes) : Option Text :=
  let bare := Codes.strip true true Codes.isBlankByte codes
  if bare.all fun code => 32 ≤ code && code < 127 then some (Codes.toText bare) else none

def toFloat : Operand → Except Fault Float
  | .text codes =>
    match Decimal.floatOfText? (Codes.toText codes) with
    | some x => .ok x
    | none => .error .wrongValue
  | .bytes codes =>
    match (asciiOfBytes? codes).bind Decimal.floatOfText? with
    | some x => .ok x
    | none => .error .wrongValue
  | a => a.real?

end PromptTemplate.Formula.Operand
