import PromptTemplate.Formula.Format

set_option autoImplicit false

namespace PromptTemplate.Formula.Field

def opening : Nat := 123

def closing : Nat := 125

/-- The format of an open field up to the brace that closes it, and what follows. The first argument
counts fields that are open inside it. -/
def formatPart (depth : Nat) : Codes → Option (Codes × Codes)
  | [] => none
  | code :: rest =>
    let push (found : Codes × Codes) : Codes × Codes := (code :: found.1, found.2)
    if code = opening then (formatPart (depth + 1) rest).map push
    else if code = closing then
      match depth with
      | 0 => some ([], rest)
      | depth + 1 => (formatPart depth rest).map push
    else (formatPart depth rest).map push

/-- The name of a field, the code that ends it and what follows; none without an end. What stands
between square brackets ends no name. The flag says whether such a bracket is open. -/
def namePart : Bool → Codes → Except Fault (Codes × Nat × Codes)
  | _, [] => .error .wrongValue
  | true, code :: rest => do
    let (name, mark, rest) ← namePart (code != 93) rest
    return (code :: name, mark, rest)
  | false, code :: rest =>
    if code = opening then .error .wrongValue
    else if code = closing || code = 58 || code = 33 then .ok ([], code, rest)
    else do
      let (name, mark, rest) ← namePart (code == 91) rest
      return (code :: name, mark, rest)

def missing (name : Codes) : Fault :=
  let first := name.takeWhile fun code => code != 46 && code != 91
  if first.isEmpty then .outOfRange
  else if first.all fun code => (Format.digit? code).isSome then .wrongValue
  else .missingKey

def checkEnd (mark : Nat) (rest : Codes) : Except Fault Unit :=
  let formatted (rest : Codes) : Except Fault Unit :=
    if (formatPart 0 rest).isSome then .ok () else .error .wrongValue
  if mark = closing then .ok ()
  else if mark = 58 then formatted rest
  else match rest with
    | [] => .error .wrongValue
    | [_] => .error .wrongValue
    | _ :: code :: rest =>
      if code = closing then .ok () else if code = 58 then formatted rest else .error .wrongValue

/-- The fault of a further field, from behind the brace that opens it. -/
def fault (codes : Codes) : Fault :=
  match namePart false codes with
  | .error fault => fault
  | .ok (name, mark, rest) =>
    match checkEnd mark rest with
    | .error fault => fault
    | .ok _ => missing name

/-- A text without fields: its doubled braces stand for single ones. The flag says that the first code
has been read. -/
def literal : Bool → Codes → Except Fault Codes
  | _, [] => .ok []
  | true, _ :: rest => literal false rest
  | false, code :: rest =>
    if code = opening || code = closing then
      if rest.head? = some code then do return code :: (← literal true rest)
      else if code = closing || rest.isEmpty then .error .wrongValue
      else .error (fault rest)
    else do return code :: (← literal false rest)

def render (format : Codes) (a : Operand) : Except Fault Codes := do
  match formatPart 0 (format ++ [closing]) with
  | none => throw .wrongValue
  | some (format, rest) =>
    let shown ← Format.value (← literal false format) a
    return shown ++ (← literal false rest)

end PromptTemplate.Formula.Field
