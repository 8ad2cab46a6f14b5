import PromptTemplate.Text.Basic

set_option autoImplicit false

namespace PromptTemplate

/-- A text read as literal characters and references. -/
inductive Piece where
  | literal (c : Char)
  | reference (name : Text)
  deriving DecidableEq, Repr

namespace Reference

def token (name : Text) : Text :=
  '_' :: name ++ ['_']

def cutLast : Text → Option (Text × Text)
  | [] => none
  | c :: rest =>
    match cutLast rest with
    | some (before, after) => some (c :: before, after)
    | none => if c = '_' then some ([], rest) else none

/-- The reference that an underscore opens, from the text behind the underscore: its name and what
follows the closing underscore. -/
def opened? (text : Text) : Option (Text × Text) :=
  match cutLast (text.takeWhile Text.isWordChar) with
  | some (c :: name, after) => some (c :: name, after ++ text.dropWhile Text.isWordChar)
  | _ => none

/-- What the pattern of a reference matches behind its first underscore, if the name may have so many characters: a
name of some length if an underscore stands behind it, and otherwise a shorter one. -/
def matched? (text : Text) : Nat → Option (Text × Text)
  | 0 => none
  | length + 1 =>
    if text[length + 1]? = some '_' then some (text.take (length + 1), text.drop (length + 2))
    else matched? text length

theorem cutLast_eq_some {text before after : Text} (cut : cutLast text = some (before, after)) :
    text = before ++ '_' :: after := by
  induction text generalizing before with
  | nil => simp [cutLast] at cut
  | cons c rest ih =>
      simp only [cutLast] at cut
      split at cut
      · next inner tail found =>
          simp only [Option.some.injEq, Prod.mk.injEq] at cut
          obtain ⟨rfl, rfl⟩ := cut
          rw [ih found, List.cons_append]
      · split at cut
        · next underscore =>
            simp only [Option.some.injEq, Prod.mk.injEq] at cut
            obtain ⟨rfl, rfl⟩ := cut
            simp [underscore]
        · simp at cut

theorem opened?_eq_some {text name rest : Text} (found : opened? text = some (name, rest)) :
    text = name ++ '_' :: rest := by
  simp only [opened?] at found
  split at found
  · next c before after cut =>
      simp only [Option.some.injEq, Prod.mk.injEq] at found
      obtain ⟨rfl, rfl⟩ := found
      have run := cutLast_eq_some cut
      calc text = text.takeWhile Text.isWordChar ++ text.dropWhile Text.isWordChar :=
            List.takeWhile_append_dropWhile.symm
        _ = _ := by rw [run]; simp
  · simp at found

theorem length_lt_of_opened? {text name rest : Text} (found : opened? text = some (name, rest)) :
    rest.length < text.length := by
  rw [opened?_eq_some found]
  simp only [List.length_append, List.length_cons]
  omega

def pieces : Text → List Piece
  | [] => []
  | c :: rest =>
    if c = '_' then
      match _found : opened? rest with
      | some (name, after) => .reference name :: pieces after
      | none => .literal c :: pieces rest
    else .literal c :: pieces rest
termination_by text => text.length
decreasing_by
  · have := length_lt_of_opened? _found
    simp only [List.length_cons]
    omega
  · simp
  · simp

def nameOf? : Piece → Option Text
  | .literal _ => none
  | .reference name => some name

/-- Every name that a text refers to, once for each reference. -/
def occurrences (text : Text) : List Text :=
  (pieces text).filterMap nameOf?

def names (text : Text) : List Text :=
  (occurrences text).eraseDups

/-- Whether a text refers to any name. The search stops at the first underscore that opens a reference. -/
def refers : Text → Bool
  | [] => false
  | c :: rest => (c == '_' && (opened? rest).isSome) || refers rest

theorem nodup_eraseDups (found : List Text) : found.eraseDups.Nodup := by
  match found with
  | [] => simp
  | name :: later =>
      rw [List.eraseDups_cons, List.nodup_cons]
      refine ⟨?_, nodup_eraseDups (later.filter fun other => !other == name)⟩
      simp [List.mem_eraseDups]
termination_by found.length
decreasing_by
  have shorter := List.length_filter_le (fun other => !other == name) later
  simp only [List.length_cons]
  omega

theorem nodup_names (text : Text) : (names text).Nodup :=
  nodup_eraseDups (occurrences text)

def fill (picks : Text → Option Text) : Piece → Text
  | .literal c => [c]
  | .reference name => (picks name).getD (token name)

/-- Replaces every reference by the text picked for its name, in one pass. -/
def substitute (picks : Text → Option Text) (text : Text) : Text :=
  (pieces text).flatMap (fill picks)

end Reference

end PromptTemplate
