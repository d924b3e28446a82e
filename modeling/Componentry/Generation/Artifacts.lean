import Std.Data.ExtTreeMap
import Componentry.FileTree.Change
import Componentry.Fingerprint
import Componentry.Generation.Error

/-
  Generated files and how they are written.

  Files are kept by the components of their paths, so each
  place is generated once, and in the order of the components.
  Writing puts one file after the other in its place and the
  manifest last; the first failure ends it.

  Key definitions:
    * `Resolution`
    * `Artifacts`, `Artifacts.insert`
    * `Manifest`
    * `Artifacts.write`
-/

------------------------------------------------------------
-- Artifacts
------------------------------------------------------------

namespace Componentry

/- How the task models of a deployment were resolved. -/
structure Resolution where
  project : String
  -- The task library of each model that has one.
  taskLibraries : ByName String
  -- The models that have none, as they were requested.
  unresolvedModels : List String
deriving DecidableEq

/- A file and the path that it was first given. -/
structure Artifact where
  path : Path
  text : String
deriving DecidableEq, Repr

/- Generated files, and how deployments were resolved. -/
structure Artifacts where
  files : Std.ExtTreeMap (List Path.Component) Artifact
  deployments : ByName Resolution

namespace Artifacts

/- No files at all. -/
def empty : Artifacts :=
  ⟨∅, ∅⟩

/- Add a file at a place that has none; keep what is there. -/
def insert
    (artifacts : Artifacts)
    (path : Path)
    (text : String) :
    Except GenerateError Unit × Artifacts :=
  if artifacts.files.contains path.components then
    (.error (.request (.repeatedPath path)), artifacts)
  else
    (.ok (),
      { artifacts with
        files :=
          artifacts.files.insert path.components ⟨path, text⟩ })

/- Add a file in a chain, which ends if there is one. -/
def insertFile
    (artifacts : Artifacts)
    (file : Path × String) :
    Except GenerateError Artifacts :=
  match artifacts.insert file.1 file.2 with
  | (.error error, _) => .error error
  | (.ok (), artifacts) => .ok artifacts

/- Add files at places that have none. -/
def insertAll
    (artifacts : Artifacts)
    (files : List (Path × String)) :
    Except GenerateError Artifacts :=
  files.foldlM insertFile artifacts

/- The text of a file. -/
def get?
    (artifacts : Artifacts)
    (path : Path) :
    Option String :=
  artifacts.files[path.components]?.map (·.text)

/- All files, in the order of their components. -/
def list (artifacts : Artifacts) : List Artifact :=
  artifacts.files.values

/- Note how a deployment was resolved. -/
def resolve
    (artifacts : Artifacts)
    (deployment : String)
    (resolution : Resolution) :
    Artifacts :=
  { artifacts with
    deployments :=
      artifacts.deployments.insert deployment resolution }

/- The deployments with models that have no library. -/
def unresolved
    (artifacts : Artifacts) :
    List (String × List String) :=
  artifacts.deployments.toList.filterMap
    fun (name, resolution) =>
      if resolution.unresolvedModels.isEmpty then none
      else some (name, resolution.unresolvedModels)

end Artifacts

end Componentry

------------------------------------------------------------
-- Manifests
------------------------------------------------------------

namespace Componentry

/- A file in a manifest. -/
structure ManifestEntry where
  path : Path
  bytes : Nat
  hash : String
deriving DecidableEq, Repr

/- A list of everything that was generated. -/
structure Manifest where
  files : List ManifestEntry
  deployments : ByName Resolution

/- The entry of a file. -/
def Artifact.entry (artifact : Artifact) : ManifestEntry where
  path := artifact.path
  bytes := artifact.text.utf8ByteSize
  hash := (Fingerprint.ofText artifact.text).hex

/- The manifest of generated files. -/
def Artifacts.manifest (artifacts : Artifacts) : Manifest where
  files := artifacts.list.map (·.entry)
  deployments := artifacts.deployments

/- A resolution as a document. -/
def Resolution.toJson (resolution : Resolution) : Json :=
  .object
    [("project", .string resolution.project),
     ("task_libraries",
       ByName.toJson resolution.taskLibraries .string),
     ("unresolved_models",
       .ofStrings resolution.unresolvedModels)]

/- An entry as a document. -/
def ManifestEntry.toJson (entry : ManifestEntry) : Json :=
  .object
    [("path", .string entry.path.text),
     ("bytes", .ofNat entry.bytes),
     ("blake3", .string entry.hash)]

/- A manifest as a document. -/
def Manifest.toJson (manifest : Manifest) : Json :=
  .object
    [("files",
       .array (manifest.files.map ManifestEntry.toJson)),
     ("deployments",
       ByName.toJson manifest.deployments Resolution.toJson)]

end Componentry

------------------------------------------------------------
-- Writing
------------------------------------------------------------

namespace Componentry

/- The name of the manifest's file. -/
def manifestPath : Path :=
  ⟨"manifest.json"⟩

/-
  Put a text in a file, making the directories above it.  The
  text is written to a spare file beside it, which takes its
  place; if it cannot, the spare file is removed.
-/
def writeText
    (tree : FileTree)
    (path : Path)
    (text : String) :
    Except GenerateError Unit × FileTree :=
  match path.parent? with
  | none => (.error (.request (.noParent path)), tree)
  | some parent =>
      match tree.makeDirectories parent with
      | (.error fault, tree) => (.error (.io parent fault), tree)
      | (.ok (), tree) =>
          match tree.writeSpare parent path text.toUTF8 with
          | .error fault => (.error (.io parent fault), tree)
          | .ok (spare, written) =>
              match written.moveFile spare path with
              | .error fault =>
                  (.error (.io path fault), written.erase spare)
              | .ok tree => (.ok (), tree)

/- Write files below a directory, one after the other. -/
def writeAll
    (directory : Path)
    (tree : FileTree) :
    List Artifact → Except GenerateError Unit × FileTree
  | [] => (.ok (), tree)
  | artifact :: rest =>
      match
        writeText tree (directory.join artifact.path)
          artifact.text
      with
      | (.error error, tree) => (.error error, tree)
      | (.ok (), tree) => writeAll directory tree rest

/- Write all files and then the manifest below a directory. -/
def Artifacts.write
    (artifacts : Artifacts)
    (directory : Path)
    (tree : FileTree) :
    Except GenerateError Manifest × FileTree :=
  match writeAll directory tree artifacts.list with
  | (.error error, tree) => (.error error, tree)
  | (.ok (), tree) =>
      let manifest := artifacts.manifest
      match
        writeText tree (directory.join manifestPath)
          manifest.toJson.pretty
      with
      | (.error error, tree) => (.error error, tree)
      | (.ok (), tree) => (.ok manifest, tree)

end Componentry
