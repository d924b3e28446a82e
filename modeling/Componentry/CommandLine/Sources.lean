import Componentry.CommandLine.Run
import Componentry.FileTree.Change

/-
  The files that a command looks at.

  A command looks at its configuration file, at the files of
  the directories that it searches, and at the texts that the
  descriptors among them mention.

  Key definitions:
    * `CommandLine.emptyTree`
    * `CommandLine.directories`
    * `CommandLine.mentionedTexts`
-/

------------------------------------------------------------
-- Sources
------------------------------------------------------------

namespace Componentry

namespace CommandLine

/- A tree with nothing but a working directory. -/
def emptyTree (directory : Path) : FileTree :=
  let home :=
    (directory.components.filter Path.Component.isNormal).map
      Path.Component.name
  FileTree.putDirectory ⟨∅, home⟩ directory

/- The directories that a command searches. -/
def directories
    (surroundings : Surroundings)
    (invocation : Invocation) :
    List Path :=
  match
    Settings.resolve surroundings.tree invocation.config
      invocation.target invocation.searchPaths
  with
  | .error _ => []
  | .ok settings =>
      match invocation.command with
      | .ask _ => settings.storePaths surroundings.searchPath
      | _ => []

/- The texts that a descriptor mentions. -/
def textsOf (record : Descriptor) : List Path :=
  let specification := record.field? FieldName.specFile
  let types := record.field? FieldName.typeRegistry
  specification.toList.map Path.mk
    ++ types.toList.flatMap fun types =>
      [⟨types⟩, typeListPath ⟨types⟩]

/- The texts that the records of some directories mention. -/
def mentionedTexts
    (tree : FileTree)
    (directories : List Path) :
    List Path :=
  let store := (DirectoryStore.ofPaths directories).view tree
  match store.recordNames with
  | .error _ => []
  | .ok names =>
      names.flatMap fun name =>
        match store.load name with
        | .error _ => []
        | .ok record => textsOf record

end CommandLine

end Componentry
