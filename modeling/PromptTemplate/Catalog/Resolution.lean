import PromptTemplate.Catalog.Basic

set_option autoImplicit false

namespace PromptTemplate

/-- Names with their entries, and the names that have none. -/
structure Resolution where
  resolved : Assoc Text (List Text) := []
  missing : List Text := []
  deriving DecidableEq, Repr

namespace Resolution

def isComplete (resolution : Resolution) : Bool :=
  resolution.missing.isEmpty

def enter (fallback : Bool) (catalog : Catalog) (resolution : Resolution) (name : Text) :
    Resolution :=
  match catalog.entries name with
  | entry :: entries =>
    { resolution with resolved := resolution.resolved.insert name (entry :: entries) }
  | [] =>
    { resolved := if fallback then resolution.resolved.insert name [name] else resolution.resolved
      missing := resolution.missing ++ [name] }

/-- The resolution of names in their order. With the fallback a missing name resolves to itself. -/
def ofNames (fallback : Bool) (catalog : Catalog) (names : List Text) : Resolution :=
  names.foldl (enter fallback catalog) {}

def entries (resolution : Resolution) (name : Text) : List Text :=
  (resolution.resolved.get? name).getD []

end Resolution

end PromptTemplate
