import PromptTemplate.Event
import PromptTemplate.FileTree
import PromptTemplate.Settings.Reading
import PromptTemplate.Yaml.Content

set_option autoImplicit false

namespace PromptTemplate

/-- Why settings or a catalog cannot be loaded. -/
inductive LoadFault where
  | file (path : FilePath) (fault : FileTree.Fault)
  | undecodable
  | yaml (path : FilePath) (fault : Yaml.Fault)
  | settings (fault : Settings.Fault)
  | catalog (fault : Catalog.Fault)
  | noMapping (path : FilePath)
  | badName (path : FilePath) (name : Value) (fault : Name.Fault)

namespace LoadFault

/-- The words for a fault, if it is reported in words. -/
def message? : LoadFault → Option String
  | .file path fault => fault.message? path
  | .undecodable => none
  | .yaml path fault => fault.message? (String.ofList path.toText)
  | .settings fault => fault.message?
  | .catalog fault => fault.message?
  | .noMapping path =>
    some (String.ofList path.toText ++ ": expected a mapping of wild card name -> entries")
  | .badName path name fault =>
    some (String.ofList path.toText ++ ": invalid wild card name " ++
      String.ofList name.quoted ++ ": " ++ fault.message)

end LoadFault

def FileTree.readDocument (tree : FileTree) (path : FilePath) (read : Yaml.Reader := Yaml.read) :
    Except LoadFault Yaml.Document :=
  match tree.readText path with
  | .error (.file fault) => .error (.file path fault)
  | .error .undecodable => .error .undecodable
  | .ok text =>
    match read text with
    | .error fault => .error (.yaml path fault)
    | .ok document => .ok document

namespace Catalog

/-- The first key of a map that is no valid name, with its fault. -/
def badName? : List (Value × Value) → Option (Value × Name.Fault)
  | [] => none
  | (key, _) :: rest =>
    match Name.fault? key.plain with
    | some fault => some (key, fault)
    | none => badName? rest

/-- The catalog that a map from names to entries describes. The names have to be valid. -/
def ofNamed? (path : FilePath) (pairs : List (Value × Value)) : Except LoadFault Catalog :=
  match badName? pairs with
  | some (name, fault) => .error (.badName path name fault)
  | none =>
    match ofValue? (.map pairs) with
    | .error fault => .error (.catalog fault)
    | .ok catalog => .ok catalog

def ofDocument? (path : FilePath) (document : Yaml.Document) : Except LoadFault Catalog :=
  match document.cell document.root with
  | .plain .null => .ok []
  | _ =>
    let id := (document.lookup? document.root "wildcards".toList).getD document.root
    match document.cell id with
    | .map entries => ofNamed? path (entries.map fun (key, held) => (key, document.opened held))
    | _ => .error (.noMapping path)

/-- The ending of the files that hold wildcards. -/
def ending : Text := ".txt".toList

/-- The name of a file without its ending. A file whose name is the ending alone keeps it. -/
def stem (fileName : Text) : Text :=
  if fileName.length ≤ ending.length then fileName
  else fileName.take (fileName.length - ending.length)

/-- What loading a directory noted, and what it found or why it stopped. -/
structure Loaded where
  events : List Event := []
  result : Except LoadFault Catalog

/-- Loads the files of a directory in the given order. A file whose name is no valid wildcard name is
noted and not read. -/
def loadFiles (tree : FileTree) (directory : FilePath) : List Text → Loaded
  | [] => { result := .ok [] }
  | fileName :: rest =>
    match Name.fault? (stem fileName) with
    | some fault =>
      let others := loadFiles tree directory rest
      { others with events := .skippedFile fileName fault :: others.events }
    | none =>
      let path := directory.child fileName
      match tree.readText path with
      | .error (.file fault) => { result := .error (.file path fault) }
      | .error .undecodable => { result := .error .undecodable }
      | .ok content =>
        let others := loadFiles tree directory rest
        { others with
          result := others.result.map (Definition.ofContent (stem fileName) content :: ·) }

/-- The files of a directory that hold wildcards, in the order of their names. -/
def wildcardFiles (tree : FileTree) (directory : FilePath) : List Text :=
  ((tree.children directory).filter ending.isSuffixOf).mergeSort Text.precedes

def load (tree : FileTree) (path : Text) (read : Yaml.Reader := Yaml.read) : Loaded :=
  let path := FilePath.ofText path
  match tree.entry path with
  | .directory directory =>
    let loaded := loadFiles tree path (wildcardFiles tree directory)
    { loaded with result := loaded.result.map distinct }
  | _ => { result := tree.readDocument path read >>= ofDocument? path }

end Catalog

end PromptTemplate
