import PromptTemplate.Text.Basic
import PromptTemplate.Text.Printable

set_option autoImplicit false

namespace PromptTemplate

/-- A path: the names on it, and whether it starts at the root of the file system or at the working
directory. -/
structure FilePath where
  isAbsolute : Bool
  names : List Text
  deriving DecidableEq, Repr

namespace FilePath

/-- The path that a text spells. Empty names and single points are dropped. -/
def ofText (text : Text) : FilePath :=
  { isAbsolute := text.head? == some '/'
    names := (Text.splitOn '/' text).filter fun name => !name.isEmpty && name != ['.'] }

/-- The text of a path. The path without names is a point, or a slash if it is absolute. -/
def toText (path : FilePath) : Text :=
  let names := Text.join ['/'] path.names
  if path.isAbsolute then '/' :: names
  else if names.isEmpty then ['.']
  else names

def child (path : FilePath) (name : Text) : FilePath :=
  { path with names := path.names ++ [name] }

/-- The path of the directory that holds an entry. -/
def parent (path : FilePath) : FilePath :=
  { path with names := path.names.dropLast }

def nameBelow? (directory path : FilePath) : Option Text :=
  if directory.isAbsolute == path.isAbsolute && directory.names.isPrefixOf path.names then
    (path.names.drop directory.names.length).head?
  else none

end FilePath

/-- The files and directories that are known, by their paths. A directory above a known path is known
as well. -/
structure FileTree where
  files : List (FilePath × ByteArray) := []
  directories : List FilePath := []
  /-- The paths at which the system lets nothing be looked at, with the words that it gives. A directory that may not be
  listed looks empty to the program, and is one without entries here. -/
  refusals : List (FilePath × String) := []

namespace FileTree

/-- Why nothing can be read at a path. -/
inductive Fault where
  | missing
  | noDirectory
  | directory
  | nameTooLong
  | nullCharacter
  | refused (words : String)
  deriving DecidableEq, Repr

/-- The words for a fault at a path, if it is reported in words. -/
def Fault.message? (path : FilePath) (fault : Fault) : Option String :=
  let at? (words : String) : Option String :=
    some (words ++ ": " ++ String.ofList (Text.quoted path.toText))
  match fault with
  | .missing => at? "[Errno 2] No such file or directory"
  | .noDirectory => at? "[Errno 20] Not a directory"
  | .directory => at? "[Errno 21] Is a directory"
  | .nameTooLong => at? "[Errno 36] File name too long"
  | .nullCharacter => none
  | .refused words => some words

/-- What stands at a path. -/
inductive Entry where
  | file (content : ByteArray)
  | directory (path : FilePath)
  | fault (fault : Fault)

def maxNameBytes : Nat := 255

/-- The content of a file. Of files written twice the last counts. -/
def content? (tree : FileTree) (path : FilePath) : Option ByteArray :=
  (tree.files.reverse.find? (·.1 == path)).map (·.2)

/-- Whether a directory is known. The root and the working directory are. -/
def isDirectory (tree : FileTree) (path : FilePath) : Bool :=
  path.names.isEmpty || tree.directories.contains path ||
    (tree.files.map (·.1) ++ tree.directories).any fun known => (path.nameBelow? known).isSome

/-- Follows names from a directory. Two points lead back; the root is above itself, and of what is above
the working directory nothing more is known. -/
def follow (tree : FileTree) (here : FilePath) : List Text → Entry
  | [] => .directory here
  | name :: rest =>
    if name = ['.', '.'] then
      if here.names.isEmpty && !here.isAbsolute then
        if rest.isEmpty then .directory (here.child name) else .fault .missing
      else follow tree here.parent rest
    else if maxNameBytes < (String.ofList name).utf8ByteSize then .fault .nameTooLong
    else
      let there := here.child name
      match tree.content? there with
      | some content => if rest.isEmpty then .file content else .fault .noDirectory
      | none => if tree.isDirectory there then follow tree there rest else .fault .missing

/-- What stands at a path. One that is known as it is spelled need not be followed. -/
def entry (tree : FileTree) (path : FilePath) : Entry :=
  if path.names.any (·.contains '\x00') then .fault .nullCharacter
  else
    match tree.refusals.find? (·.1 == path) with
    | some (_, words) => .fault (.refused words)
    | none =>
      match tree.content? path with
      | some content => .file content
      | none =>
        if tree.directories.contains path then .directory path
        else tree.follow { path with names := [] } path.names

/-- The names of the known entries of a directory, without order. -/
def children (tree : FileTree) (directory : FilePath) : List Text :=
  ((tree.files.map (·.1) ++ tree.directories).filterMap directory.nameBelow?).eraseDups

/-- Why the text at a path cannot be read. -/
inductive ReadFault where
  | file (fault : Fault)
  | undecodable
  deriving DecidableEq, Repr

def decode? (content : ByteArray) : Option Text :=
  (String.fromUTF8? content).map fun decoded => Text.normaliseBreaks decoded.toList

def readText (tree : FileTree) (path : FilePath) : Except ReadFault Text :=
  match tree.entry path with
  | .fault fault => .error (.file fault)
  | .directory _ => .error (.file .directory)
  | .file content =>
    match decode? content with
    | some text => .ok text
    | none => .error .undecodable

end FileTree

end PromptTemplate
