import PromptTemplate.Formula.Parser.Basic
import PromptTemplate.Formula.Token

set_option autoImplicit false

namespace PromptTemplate.Formula.Parser

/-- The length of a named escape behind its backslash, as far as it goes. -/
def namedLength (text : Text) : Nat :=
  match text with
  | '\x7b' :: rest => min rest.length ((rest.takeWhile (· != '\x7d')).length + 1) + 2
  | _ => 2

/-- The text up to the next field or the end of a format, and what follows. Escapes are kept and taken
along; doubled braces become single ones, except in a format. The second argument counts characters
that are taken along. -/
def plainPart (isRaw isFormat : Bool) : Nat → Text → Except Fault (Text × Text)
  | _, [] => .ok ([], [])
  | skipped + 1, c :: rest => do
    let (found, rest) ← plainPart isRaw isFormat skipped rest
    return (c :: found, rest)
  | 0, c :: rest =>
    let take (skipped : Nat) : Except Fault (Text × Text) := do
      let (found, rest) ← plainPart isRaw isFormat skipped rest
      return (c :: found, rest)
    if c = '\\' && !isRaw then
      match rest with
      | 'N' :: more => take (namedLength more)
      | next :: _ => if next = '\x7b' || next = '\x7d' then take 0 else take 1
      | [] => take 0
    else if c = '\x7b' || c = '\x7d' then
      if isFormat then .ok ([], c :: rest)
      else if rest.head? = some c then plainAfter rest
      else if c = '\x7d' then .error .malformed
      else .ok ([], c :: rest)
    else take 0
where
  /-- The text from the second of two braces on. -/
  plainAfter (rest : Text) : Except Fault (Text × Text) :=
    match rest with
    | [] => .ok ([], [])
    | c :: rest => do
      let (found, rest) ← plainPart isRaw isFormat 0 rest
      return (c :: found, rest)

structure FieldState where
  /-- The quote of an open literal, and whether it has three of them. -/
  quote : Option (Char × Bool)
  /-- The brackets that are open, innermost first. -/
  brackets : List Char

def closes (opening closing : Char) : Bool :=
  (opening, closing) == ('(', ')') || (opening, closing) == ('[', ']') ||
    (opening, closing) == ('\x7b', '\x7d')

/-- The text of the formula of a field and what follows. The second argument counts characters that have
been looked at. -/
def fieldText (state : FieldState) : Nat → Text → Except Fault (Text × Text)
  | _, [] => .error .malformed
  | skipped + 1, c :: rest => do
    if c = '\\' then throw .malformed
    let (found, rest) ← fieldText state skipped rest
    return (c :: found, rest)
  | 0, c :: rest =>
    let take (state : FieldState) (skipped : Nat) : Except Fault (Text × Text) := do
      let (found, rest) ← fieldText state skipped rest
      return (c :: found, rest)
    let isTriple := rest.take 2 == [c, c]
    if c = '\\' then .error .malformed
    else match state.quote with
      | some (quote, isLong) =>
        if c = quote then
          if !isLong then take { state with quote := none } 0
          else if isTriple then take { state with quote := none } 2
          else take state 0
        else take state 0
      | none =>
        if c = '\'' || c = '"' then
          take { state with quote := some (c, isTriple) } (if isTriple then 2 else 0)
        else if c = '(' || c = '[' || c = '\x7b' then
          if Token.maxBrackets ≤ state.brackets.length then .error .malformed
          else take { state with brackets := c :: state.brackets } 0
        else if c = '#' then .error .malformed
        else if state.brackets.isEmpty && ['!', ':', '\x7d', '=', '<', '>'].contains c then
          if rest.head? = some '=' && ['!', '=', '<', '>'].contains c then take state 1
          else if c = '<' || c = '>' then take state 0
          else .ok ([], c :: rest)
        else if c = ')' || c = ']' || c = '\x7d' then
          match state.brackets with
          | opening :: others =>
            if closes opening c then take { state with brackets := others } 0 else .error .malformed
          | [] => .error .malformed
        else take state 0

def fieldFormula (inner : Inner) (text : Text) : Except Fault Expression :=
  if text.all fun c => c = ' ' || c = '\t' || c = '\n' || c = '\x0c' then .error .malformed
  else (inner .items (Token.ofText ('(' :: text ++ [')']))).map (·.1)

def isAsciiBlank (c : Char) : Bool :=
  Codes.isBlankByte c.toNat

/-- What follows the formula of a field up to its conversion: the text that shows the formula itself, if
it is to be shown. -/
def shownPart (text : Text) (rest : Text) : Option Text × Text :=
  match rest with
  | '=' :: more =>
    let blanks := more.takeWhile isAsciiBlank
    (some (text ++ '=' :: blanks), more.dropWhile isAsciiBlank)
  | rest => (none, rest)

/-- What follows a conversion, which is one of three letters, if there is one. -/
def conversionPart (text : Text) : Except Fault Text :=
  match text with
  | '!' :: letter :: rest =>
    if letter = 's' || letter = 'r' || letter = 'a' then .ok rest else .error .malformed
  | ['!'] => .error .malformed
  | text => .ok text

def maxFieldDepth : Nat := 2

/-- The parts of a template or of a format, and what follows. The first argument bounds the number of
parts. -/
def templateParts (inner : Inner) (isRaw : Bool) :
    Nat → Nat → Text → Except Fault (List Expression × Text)
  | 0, _, _ => .error .unreadable
  | bound + 1, depth, text => do
    let (plain, rest) ← plainPart isRaw (0 < depth) 0 text
    let codes ← match Token.textContent? isRaw plain with
      | some codes => pure codes
      | none => throw .malformed
    let front := if codes.isEmpty then [] else [Expression.constant (.text codes)]
    match rest with
    | '\x7b' :: field => do
      if maxFieldDepth ≤ depth then throw .malformed
      let (text, rest) ← fieldText { quote := none, brackets := [] } 0 field
      let formula ← fieldFormula inner text
      let (shown, rest) := shownPart text rest
      let rest ← conversionPart rest
      let (format, rest) ← match rest with
        | ':' :: more => do
          let (parts, rest) ← templateParts inner isRaw bound (depth + 1) more
          pure (some parts, rest)
        | rest => pure (none, rest)
      match rest with
      | '\x7d' :: rest => do
        let (others, rest) ← templateParts inner isRaw bound depth rest
        let shown := (shown.map fun text => Expression.constant (.text (Codes.ofText text))).toList
        return (front ++ shown ++ .formatted formula format :: others, rest)
      | _ => throw .malformed
    | rest => return (front, rest)

def template (inner : Inner) (isRaw : Bool) (content : Text) : Except Fault (List Expression) := do
  let (parts, rest) ← templateParts inner isRaw (content.length + 1) 0 content
  if rest.isEmpty then return parts else throw .malformed

end PromptTemplate.Formula.Parser
