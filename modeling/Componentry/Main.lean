import Componentry.CommandLine.Elapsed
import Componentry.CommandLine.Help
import Componentry.CommandLine.Sources

/-
  The program.

  Files are read where the command line and the descriptors
  name them.  Directories are not listed: the paths of the
  descriptor files come on standard input, one a line.

  Key definitions:
    * `Program.start`
    * `main`
-/

------------------------------------------------------------
-- Reading Files
------------------------------------------------------------

namespace Componentry

namespace Program

/- Add a file to a tree if it can be read. -/
def addFile
    (tree : FileTree)
    (path : Path) :
    IO FileTree := do
  try
    let bytes ← IO.FS.readBinFile path.text
    pure (tree.put path (.file bytes))
  catch _ => pure tree

/- The paths on standard input, unless it is a terminal. -/
def inputPaths : IO (List Path) := do
  let stdin ← IO.getStdin
  if ← stdin.isTty then pure []
  else
    let lines ← stdin.lines
    pure (lines.toList.map Path.mk)

/- The files that a command looks at. -/
def gather
    (invocation : CommandLine.Invocation) :
    IO CommandLine.Surroundings := do
  let home ← IO.currentDir
  let searchPath ← IO.getEnv "PKG_CONFIG_PATH"
  let tree ←
    invocation.config.toList.foldlM addFile
      (CommandLine.emptyTree ⟨toString home⟩)
  let directories :=
    CommandLine.directories ⟨tree, searchPath⟩ invocation
  if directories.isEmpty then pure ⟨tree, searchPath⟩
  else
    if invocation.verbose then
      for directory in directories do
        IO.eprintln ("searching " ++ directory.text)
    let tree ← (← inputPaths).foldlM addFile tree
    let texts := CommandLine.mentionedTexts tree directories
    pure ⟨← texts.foldlM addFile tree, searchPath⟩

end Program

end Componentry

------------------------------------------------------------
-- Running
------------------------------------------------------------

namespace Componentry

namespace Program

/- Answer a command line that asks for no command. -/
def refuse (error : CommandLine.UsageError) : IO UInt32 := do
  match error with
  | .help =>
      IO.print CommandLine.helpText
      pure 0
  | .version =>
      IO.print CommandLine.versionText
      pure 0
  | error =>
      IO.eprintln ("error: " ++ error.message)
      IO.eprint CommandLine.helpText
      pure 2

/- Run the command of a command line. -/
def start (arguments : List String) : IO UInt32 := do
  match CommandLine.read arguments with
  | .error error => refuse error
  | .ok invocation =>
      let begun ← IO.monoNanosNow
      let surroundings ← gather invocation
      let stdout ← IO.getStdout
      let colored ← stdout.isTty
      let ended ← IO.monoNanosNow
      let elapsed := CommandLine.elapsedText (ended - begun)
      match
        CommandLine.run surroundings colored elapsed invocation
      with
      | .ok output =>
          IO.print output
          pure 0
      | .error failure =>
          for line in failure.chain do
            IO.eprintln ("error: " ++ line)
          pure 1

end Program

end Componentry

/- The program's entry. -/
def main (arguments : List String) : IO UInt32 :=
  Componentry.Program.start arguments
