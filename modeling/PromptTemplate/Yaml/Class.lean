import PromptTemplate.Text.Basic

set_option autoImplicit false

namespace PromptTemplate.Yaml

/-- Whether a character ends a line. -/
def isBreak (c : Char) : Bool :=
  c == '\n' || c == '\u0085' || c == '\u2028' || c == '\u2029'

/-- A line end as it stands in a scalar. -/
def breakChar (c : Char) : Char :=
  if c = '\u2028' || c = '\u2029' then c else '\n'

/-- Whether a character is a space, a tab or a line end. -/
def isBlank (c : Char) : Bool :=
  c == ' ' || c == '\t' || isBreak c

/-- Whether a text is at its end or starts with a space, a tab or a line end. -/
def startsBlank : Text → Bool
  | [] => true
  | c :: _ => isBlank c

def startsSpace : Text → Bool
  | ' ' :: _ => true
  | _ => false

/-- Whether a text is at its end or starts with a space or a line end. -/
def startsSpaceOrBreak : Text → Bool
  | [] => true
  | c :: _ => c == ' ' || isBreak c

def startsBreak : Text → Bool
  | [] => false
  | c :: _ => isBreak c

def byteOrderMark : Char := '\ufeff'

/-- Whether a character may occur in a YAML text. -/
def isAllowed (c : Char) : Bool :=
  c == '\t' || c == '\n' || c == '\r' || c == '\u0085' || (' ' ≤ c && c ≤ '~') ||
    (0xA0 ≤ c.toNat && c.toNat ≤ 0xFFFD) || 0x10000 ≤ c.toNat

def startsDocumentMark : Text → Bool
  | a :: b :: c :: rest =>
    ((a == '-' && b == '-' && c == '-') || (a == '.' && b == '.' && c == '.')) && startsBlank rest
  | _ => false

end PromptTemplate.Yaml
