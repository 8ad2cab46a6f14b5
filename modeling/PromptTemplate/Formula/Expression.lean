import PromptTemplate.Formula.Operand.Basic

set_option autoImplicit false

namespace PromptTemplate.Formula

/-- Signs in front of an operand. -/
inductive Sign where
  | plus
  | minus
  /-- A sign without a meaning. -/
  | undefined
  deriving DecidableEq, Repr

inductive Operator where
  | add
  | sub
  | mul
  | div
  | pow
  /-- An operator without a meaning. -/
  | undefined
  deriving DecidableEq, Repr

/-- What a form could be used for besides its value. -/
structure Usage where
  /-- Whether a value could be assigned to it. -/
  assignable : Bool
  /-- Whether it could be deleted. -/
  deletable : Bool
  deriving DecidableEq, Repr

inductive Expression where
  | constant (value : Operand)
  | name (text : Text)
  | signed (sign : Sign) (operand : Expression)
  | binary (operator : Operator) (left right : Expression)
  /-- Values of which the first false one, or the last one, counts. -/
  | both (values : List Expression)
  /-- Values of which the first true one, or the last one, counts. -/
  | either (values : List Expression)
  | conditional (test whenTrue whenFalse : Expression)
  /-- The first two values of a comparison. -/
  | comparison (left right : Expression)
  /-- A call with the arguments given by place and those given by a name; a name is missing where a
  dictionary of arguments is given. -/
  | call (callee : Expression) (positional : List Expression)
    (named : List (Option Text × Expression))
  | attribute (owner : Expression) (name : Text)
  | subscript (owner index : Expression)
  | slice (first last step : Option Expression)
  /-- A text put together from parts. -/
  | joined (parts : List Expression)
  /-- A value in a text, perhaps with the parts of its format. -/
  | formatted (value : Expression) (format : Option (List Expression))
  /-- A form without a value. -/
  | form (label : String) (usage : Usage)

def Expression.plainForm (label : String) : Expression :=
  .form label ⟨false, false⟩

namespace Expression

def isSimpleTarget : Expression → Bool
  | .name _ | .attribute _ _ | .subscript _ _ => true
  | _ => false

def usage : Expression → Usage
  | .form _ usage => usage
  | other => ⟨other.isSimpleTarget, other.isSimpleTarget⟩

/-- A list or a tuple of elements: it could be used as each of them. -/
def sequence (label : String) (elements : List Expression) : Expression :=
  .form label
    ⟨elements.all (·.usage.assignable), elements.all (·.usage.deletable)⟩

/-- An element that stands for the items it holds. -/
def starred (element : Expression) : Expression :=
  .form "Starred" ⟨element.usage.assignable, false⟩

mutual

def depth : Expression → Nat
  | .constant _ | .name _ | .form _ _ => 1
  | .signed _ operand => operand.depth + 1
  | .binary _ left right | .comparison left right | .subscript left right =>
    max left.depth right.depth + 1
  | .both values | .either values | .joined values => depthOfAll values + 1
  | .conditional test whenTrue whenFalse =>
    max test.depth (max whenTrue.depth whenFalse.depth) + 1
  | .call callee positional named =>
    max callee.depth (max (depthOfAll positional) (depthOfNamed named)) + 1
  | .attribute owner _ => owner.depth + 1
  | .slice first last step =>
    max (depthOfOption first) (max (depthOfOption last) (depthOfOption step)) + 1
  | .formatted value none => value.depth + 1
  | .formatted value (some parts) => max value.depth (depthOfAll parts + 1) + 1

def depthOfAll : List Expression → Nat
  | [] => 0
  | first :: rest => max first.depth (depthOfAll rest)

/-- The depth of the deepest of several arguments. -/
def depthOfNamed : List (Option Text × Expression) → Nat
  | [] => 0
  | (_, first) :: rest => max first.depth (depthOfNamed rest)

def depthOfOption : Option Expression → Nat
  | none => 0
  | some expression => expression.depth

end

end Expression

end PromptTemplate.Formula
