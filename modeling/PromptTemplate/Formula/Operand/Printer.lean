import PromptTemplate.Decimal.Layout
import PromptTemplate.Formula.Operand.Basic

set_option autoImplicit false

namespace PromptTemplate.Formula.Operand

/-- Parts of complex numbers: no fraction behind a whole number. -/
def partLayout : Decimal.Layout :=
  { wholeFraction := false }

/-- A complex number: its imaginary part alone if the real one is zero, else both between brackets. -/
def complexText (z : Complex) : Text :=
  let imaginary := partLayout.render z.im
  if z.re.toBits == 0 then imaginary ++ ['j']
  else
    let signed := if imaginary.head? = some '-' then imaginary else '+' :: imaginary
    '(' :: partLayout.render z.re ++ signed ++ "j)".toList

/-- An integer, unless it has too many digits. -/
def intText (n : Int) : Except Fault Text :=
  let digits := Text.ofInt n
  if maxDigits < Nat.log2 n.natAbs / 4 + 1 || maxDigits < (Text.ofNat n.natAbs).length then
    .error .wrongValue
  else .ok digits

/-- Pieces with a comma and a space between neighbours. -/
def listed (pieces : List Codes) : Codes :=
  Codes.join [44, 32] pieces

def partName : DictPart → Codes
  | .keys => Codes.ofString "dict_keys(["
  | .values => Codes.ofString "dict_values(["
  | .items => Codes.ofString "dict_items(["

mutual

/-- The quoted form of a value; the first argument says how texts are quoted. -/
def quotedBy (quote : Codes → Codes) : Operand → Except Fault Codes
  | .int n => (intText n).map Codes.ofText
  | .bool b => .ok (Codes.ofString (if b then "True" else "False"))
  | .float x => .ok (Codes.ofText (Decimal.plain.render x))
  | .complex z => .ok (Codes.ofText (complexText z))
  | .text codes => .ok (quote codes)
  | .bytes codes => .ok (Codes.quotedBytes codes)
  | .nothing => .ok (Codes.ofString "None")
  | .ellipsis => .ok (Codes.ofString "Ellipsis")
  | .list items => do return 91 :: listed (← quotedAll quote items) ++ [93]
  | .tuple [item] => do return 40 :: (← quotedBy quote item) ++ [44, 41]
  | .tuple items => do return 40 :: listed (← quotedAll quote items) ++ [41]
  | .dict entries => do return 123 :: listed (← quotedEntries quote entries) ++ [125]
  | .view part entries => do
    return partName part ++ listed (← quotedPart quote part entries) ++ [93, 41]
  | .method _ name => .ok (Codes.ofString "<built-in method " ++ Codes.ofText name ++ [62])
  | .slice first last step => do
    let bounds := [← quotedBy quote first, ← quotedBy quote last, ← quotedBy quote step]
    return Codes.ofString "slice(" ++ listed bounds ++ [41]

def quotedAll (quote : Codes → Codes) : List Operand → Except Fault (List Codes)
  | [] => .ok []
  | item :: rest => do return (← quotedBy quote item) :: (← quotedAll quote rest)

def quotedEntries (quote : Codes → Codes) : List (Operand × Operand) → Except Fault (List Codes)
  | [] => .ok []
  | (key, value) :: rest => do
    return ((← quotedBy quote key) ++ [58, 32] ++ (← quotedBy quote value)) ::
      (← quotedEntries quote rest)

def quotedPart (quote : Codes → Codes) (part : DictPart) :
    List (Operand × Operand) → Except Fault (List Codes)
  | [] => .ok []
  | (key, value) :: rest => do
    let keyText ← quotedBy quote key
    let valueText ← quotedBy quote value
    let shown : Codes := match part with
      | .keys => keyText
      | .values => valueText
      | .items => 40 :: keyText ++ [44, 32] ++ valueText ++ [41]
    return shown :: (← quotedPart quote part rest)

end

def quoted : Operand → Except Fault Codes :=
  quotedBy Codes.quoted

def plain : Operand → Except Fault Codes
  | .text codes => .ok codes
  | a => a.quoted

end PromptTemplate.Formula.Operand
