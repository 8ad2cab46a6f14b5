import PromptTemplate.Event

set_option autoImplicit false

namespace PromptTemplate.Resolution

/-- What is resolved and missing so far, and what has been noted. -/
structure Progress where
  resolution : Resolution := {}
  events : List Event := []
  deriving DecidableEq, Repr

abbrev Resolving (α : Type) := StateM Progress α

namespace Resolving

def resolve (name : Text) (entries : List Text) : Resolving Unit :=
  modify fun progress =>
    { progress with resolution.resolved := progress.resolution.resolved.insert name entries }

/-- Puts a name behind the missing ones. -/
def miss (name : Text) : Resolving Unit :=
  modify fun progress => { progress with resolution.missing := progress.resolution.missing ++ [name] }

def note (event : Event) : Resolving Unit :=
  modify fun progress => { progress with events := progress.events ++ [event] }

/-- Takes the next name. If it is missing, it is noted only when it is to stand for itself. -/
def next (fallback : Bool) (catalog : Catalog) (name : Text) : Resolving Unit := do
  match catalog.entries name with
  | entry :: entries => resolve name (entry :: entries)
  | [] =>
    miss name
    if fallback then
      note (.standsForItself name)
      resolve name [name]

end Resolving

/-- How far resolving comes with names in their order. -/
def progress (fallback : Bool) (catalog : Catalog) (names : List Text) : Progress :=
  ((names.forM (Resolving.next fallback catalog)).run {}).2

end PromptTemplate.Resolution
