import PromptTemplate.CommandLine.Run

set_option autoImplicit false

namespace PromptTemplate.CommandLine

def usage : String :=
  "usage: prompt [-h] [--catalog PATH] [--config PATH] [--cost EXPR] [--validate] [--execution]\n" ++
    "              [--yaml] [--verbose] prompt"

/-- The paths of the directories above a path, and the path itself. -/
def pathsTo (path : FilePath) : List FilePath :=
  (List.range (path.names.length + 1)).map fun count => { path with names := path.names.take count }

/-- The text of a path as the file system takes it. -/
def spelled (path : FilePath) : String :=
  String.ofList path.toText

/-- Adds what stands at a path. Nothing is added if it cannot be looked at. -/
def look (tree : FileTree) (path : FilePath) : IO FileTree := do
  let place := System.mkFilePath [spelled path]
  if ← place.isDir then
    return { tree with directories := tree.directories ++ [path] }
  try
    let content ← IO.FS.readBinFile place
    return { tree with files := tree.files ++ [(path, content)] }
  catch _ => return tree

/-- Adds what the directory at a path holds. -/
def lookInside (tree : FileTree) (path : FilePath) : IO FileTree := do
  let place := System.mkFilePath [spelled path]
  if ← place.isDir then
    let entries ← place.readDir
    entries.toList.foldlM (fun tree entry => look tree (path.child entry.fileName.toList)) tree
  else return tree

/-- What the file system holds at the paths that arguments name. -/
def gather (arguments : Arguments) : IO FileTree := do
  let config := (arguments.config.map FilePath.ofText).toList
  let catalog := (arguments.catalog.map FilePath.ofText).toList
  let tree ← ((config ++ catalog).flatMap pathsTo).foldlM look {}
  catalog.foldlM lookInside tree

/-- Writes what a run has written. -/
def Transcript.put (transcript : Transcript) : IO Unit := do
  (← IO.getStdout).putStr (String.ofList transcript.output)
  (← IO.getStderr).putStr (String.ofList transcript.remarksText)

def runAndPut (arguments : Arguments) : IO UInt32 := do
  match (Session.ofArguments (.standard (← gather arguments)) arguments).run {} with
  | .ok exit transcript =>
    transcript.put
    return exit.toUInt32
  | .error _ transcript =>
    transcript.put
    IO.eprintln "error: the input cannot be read as text or as numbers"
    return 1

end PromptTemplate.CommandLine

/-- Ends with zero if the prompt is valid, with one if it is not, and with two if the run cannot start. -/
def main (arguments : List String) : IO UInt32 := do
  match PromptTemplate.CommandLine.Arguments.ofTexts (arguments.map String.toList) with
  | .ok arguments => PromptTemplate.CommandLine.runAndPut arguments
  | .error .help => do
    IO.println PromptTemplate.CommandLine.usage
    return 0
  | .error .usage => do
    IO.eprintln PromptTemplate.CommandLine.usage
    return 2
