import PromptTemplate.Formula.Token.Literal
import PromptTemplate.Formula.Token.Margin
import PromptTemplate.Letter.Normal
import PromptTemplate.Text.Basic
import PromptTemplate.Text.Identifier

set_option autoImplicit false

namespace PromptTemplate.Formula.Token

def closing? : String → Option String
  | "(" => some ")"
  | "[" => some "]"
  | "\x7b" => some "\x7d"
  | _ => none

def maxBrackets : Nat := 200

/-- The brackets that are open behind a symbol, innermost first. -/
def openAfter (opened : List String) (mark : String) : Except Fault (List String) :=
  match closing? mark with
  | some close => if maxBrackets ≤ opened.length then .error .malformed else .ok (close :: opened)
  | none =>
    if mark = ")" || mark = "]" || mark = "\x7d" then
      match opened with
      | expected :: rest => if expected = mark then .ok rest else .error .malformed
      | [] => .error .malformed
    else .ok opened

def openedBy (opened : List String) : Token → Except Fault (List String)
  | .symbol mark => openAfter opened mark
  | _ => .ok opened

def symbolAt (text : Text) : Except Fault (Token × Text) :=
  match symbols.find? fun mark => mark.toList.isPrefixOf text with
  | some mark => .ok (.symbol mark, text.drop mark.length)
  | none => .error .malformed

/-- Whether a character can stand in a word, right or wrong. -/
def isWordPart (c : Char) : Bool :=
  Text.isWordChar c || 0x80 ≤ c.toNat

/-- The token of a word: a reserved one, or a name in its normal form. -/
def ofWord (word : Text) : Except Fault Token :=
  match word with
  | [] => .error .malformed
  | first :: rest =>
    if reservedWords.contains (String.ofList word) then .ok (.keyword (String.ofList word))
    else if Text.isIdentifierStart first && rest.all Text.isIdentifierPart then
      .ok (.name (Letter.normalIdentifier word))
    else .error .malformed

def wordOrLiteral (text : Text) : Except Fault (Token × Text) :=
  let word := text.takeWhile isWordPart
  let rest := text.dropWhile isWordPart
  let marks := word.map Char.toLower
  match rest with
  | quote :: _ =>
    if (quote = '"' || quote = '\'') && literalMarks.contains (String.ofList marks) then
      literal marks rest
    else (ofWord word).map (·, rest)
  | [] => (ofWord word).map (·, rest)

/-- The token at the start of a text that is neither blank nor line end, and what follows. -/
def next (text : Text) : Except Fault (Token × Text) :=
  match text with
  | [] => .error .malformed
  | c :: rest =>
    if c.isDigit then numeral text
    else if isWordPart c then wordOrLiteral text
    else if c = '"' || c = '\'' then literal [] text
    else
      match rest with
      | d :: _ => if c = '.' && d.isDigit then decimalNumeral text else symbolAt text
      | [] => symbolAt text

/-- What is open where a text is cut. -/
structure Opened where
  /-- The closing brackets of what is open, innermost first. -/
  brackets : List String
  /-- The margins of the lines around, innermost first. -/
  margins : List Margin

/-- Where the next token stands in its line. -/
inductive Place where
  /-- In front of a line, behind blanks of some margin. The column of the first line counts for lines
  that are joined by backslashes. -/
  | margin (current : Margin) (joined : Nat)
  /-- In a line, behind its margin. -/
  | inside

def Place.start : Place := .margin .zero 0

def lineMargin (current : Margin) (joined : Nat) : Margin :=
  if joined = 0 then current else ⟨joined, joined⟩

theorem length_dropWhile_lt (p : Char → Bool) (c : Char) (rest : Text) :
    (rest.dropWhile p).length < (c :: rest).length :=
  Nat.lt_succ_of_le (List.dropWhile_suffix p).length_le

def cut (opened : Opened) (place : Place) : Text → List Token
  | [] =>
    match place with
    | .margin _ _ =>
      if opened.brackets.isEmpty then opened.margins.map fun _ => .dedent
      else [.fault .malformed false]
    | .inside =>
      if opened.brackets.isEmpty then .lineEnd :: opened.margins.map fun _ => .dedent
      else [.fault .malformed false]
  | c :: rest =>
    if isSpace c then
      match place with
      | .margin current joined => cut opened (.margin (current.step c) joined) rest
      | .inside => cut opened .inside rest
    else if c = '#' then cut opened place (rest.dropWhile (· != '\n'))
    else if c = '\n' then
      match place with
      | .margin _ _ => cut opened .start rest
      | .inside =>
        if opened.brackets.isEmpty then .lineEnd :: cut opened .start rest
        else cut opened .start rest
    else if c = '\\' then
      match rest with
      | '\n' :: d :: more =>
        match place with
        | .margin current joined =>
          cut opened (.margin current (if joined = 0 then current.column else joined)) (d :: more)
        | .inside => cut opened .inside (d :: more)
      | _ => [.fault .malformed false]
    else
      let entered : Except Fault (List Margin × List Token) := match place with
        | .margin current joined =>
          if opened.brackets.isEmpty then (lineMargin current joined).next opened.margins
          else .ok (opened.margins, [])
        | .inside => .ok (opened.margins, [])
      match entered with
      | .error cause => [.fault cause false]
      | .ok (margins, changes) =>
        match next (c :: rest) with
        | .error cause => changes ++ [.fault cause true]
        | .ok (token, after) =>
          match openedBy opened.brackets token with
          | .error cause => changes ++ [.fault cause true]
          | .ok brackets =>
            if _shorter : after.length < (c :: rest).length then
              changes ++ token :: cut { brackets, margins } .inside after
            else changes ++ [.fault .malformed true]
termination_by text => text.length
decreasing_by
  · simp
  · simp
  · exact length_dropWhile_lt (· != '\n') c rest
  · simp
  · simp
  · simp
  · simp
  · simp
  · exact _shorter

/-- The tokens of a formula, which does not hold the null character. -/
def ofText (text : Text) : List Token :=
  if text.contains '\x00' then [.fault .malformed true]
  else cut { brackets := [], margins := [] } .start (Text.normaliseBreaks text)

end PromptTemplate.Formula.Token
