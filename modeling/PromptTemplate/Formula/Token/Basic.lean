import PromptTemplate.Formula.Operand.Basic

set_option autoImplicit false

namespace PromptTemplate.Formula

inductive Token where
  | number (value : Operand)
  | name (text : Text)
  /-- A word that cannot be a name. -/
  | keyword (word : String)
  | text (codes : Codes)
  | bytes (codes : Codes)
  /-- A text with fields in it, whose content is not yet read. -/
  | template (isRaw : Bool) (content : Text)
  /-- A literal whose content means nothing. -/
  | broken
  | symbol (mark : String)
  | lineEnd
  /-- A line that is indented more than the one before. -/
  | indent
  /-- The end of the lines that were indented. -/
  | dedent
  /-- A place where the text cannot be cut. The flag says whether the cause is told before all others. -/
  | fault (cause : Fault) (isImmediate : Bool)

namespace Token

def reservedWords : List String :=
  ["False", "None", "True", "and", "as", "assert", "async", "await", "break", "class", "continue",
    "def", "del", "elif", "else", "except", "finally", "for", "from", "global", "if", "import", "in",
    "is", "lambda", "nonlocal", "not", "or", "pass", "raise", "return", "try", "while", "with",
    "yield"]

/-- The symbols, longer ones in front of their beginnings. -/
def symbols : List String :=
  ["**=", "//=", ">>=", "<<=", "...", "**", "//", "<<", ">>", "<=", ">=", "==", "!=", "<>", "->",
    "+=", "-=", "*=", "/=", "%=", "@=", "&=", "|=", "^=", ":=", "+", "-", "*", "/", "%", "@", "&",
    "|", "^", "~", "<", ">", "(", ")", "[", "]", "\x7b", "\x7d", ",", ":", ";", ".", "=", "!", "$",
    "?", "\x60"]

end Token

end PromptTemplate.Formula
