import PromptTemplate.Catalog.Basic
import PromptTemplate.Loading
import PromptTemplate.Settings.InPlace
import PromptTemplate.Yaml.Printer

set_option autoImplicit false

namespace PromptTemplate

/-- Why there is no document in the bytes of a file. -/
inductive Yaml.ReadFault where
  | undecodable
  | fault (fault : Fault)

/-- What a run finds around it: files, the libraries that it calls, and a stream that its output goes to. -/
structure Host where
  tree : FileTree
  /-- The document in the bytes of a file. Whether bytes are decoded before the document is read or while it is read is
  left open, and so is the order of a set. -/
  read : ByteArray → Except Yaml.ReadFault Yaml.Document
  /-- The printed form of a value, if there is one. -/
  print : Value → Option Text
  /-- The number that a formula gives. -/
  formula : Formula.Evaluator
  /-- How deep collections may be nested in what is written. -/
  room : Nat
  /-- Whether the stream takes a text behind what has been written to it. It need not take a text that has no form in
  its encoding, such as one with half of a pair of code units. -/
  takes : Text → Text → Bool

namespace Host

variable (host : Host)

def document (path : FilePath) : Except LoadFault Yaml.Document :=
  match host.tree.entry path with
  | .fault fault => .error (.file path fault)
  | .directory _ => .error (.file path .directory)
  | .file content =>
    match host.read content with
    | .error .undecodable => .error .undecodable
    | .error (.fault fault) => .error (.yaml path fault)
    | .ok document => .ok document

def settings (path : Text) : Except (Failure LoadFault) Settings := do
  let document ← (host.document (.ofText path)).mapError .fault
  let id := (document.lookup? document.root "expansion".toList).getD document.root
  (Settings.read host.room host.formula (document.value id)).mapError (.map .settings)

def checkNames (path : FilePath) : List (Value × Value) → Except (Failure LoadFault) Unit
  | [] => return ()
  | (key, _) :: rest => do
    written host.room key
    match Name.fault? key.plain with
    | some fault => throw (.fault (.badName path key fault))
    | none => checkNames path rest

def catalogIn (path : FilePath) (document : Yaml.Document) : Except (Failure LoadFault) Catalog :=
  match document.cell document.root with
  | .plain .null => return []
  | _ =>
    let id := (document.lookup? document.root "wildcards".toList).getD document.root
    match document.cell id with
    | .map entries => do
      let pairs := entries.map fun (key, held) => (key, document.opened held)
      host.checkNames path pairs
      (Catalog.read host.room (.map pairs)).mapError (.map .catalog)
    | _ => throw (.fault (.noMapping path))

/-- A catalog that was loaded from a directory or a file, or the failure to load it, and what was noted. -/
structure Listing where
  events : List Event := []
  result : Except (Failure LoadFault) Catalog

def catalog (path : Text) : Listing :=
  let path := FilePath.ofText path
  match host.tree.entry path with
  | .directory directory =>
    let loaded := Catalog.loadFiles host.tree path (Catalog.wildcardFiles host.tree directory)
    { events := loaded.events, result := (loaded.result.map Catalog.distinct).mapError .fault }
  | _ => { result := do host.catalogIn path (← (host.document path).mapError .fault) }

def readDecoded (read : Yaml.Reader) (content : ByteArray) : Except Yaml.ReadFault Yaml.Document :=
  match FileTree.decode? content with
  | none => .error .undecodable
  | some text => (read text).mapError .fault

/-- So many bytes of a file are decoded in any case before the document in it is read. -/
def firstBlock : Nat := 4096

/-- How deep collections may be nested in what the program writes. -/
def standardRoom : Nat := 900

/-- The host of the program. Its stream takes every text. -/
def standard (tree : FileTree) : Host where
  tree
  read := readDecoded Yaml.read
  print value := if value.isWritable standardRoom then some (Yaml.print value) else none
  formula := Formula.evaluate
  room := standardRoom
  takes _ _ := true

end Host

end PromptTemplate
