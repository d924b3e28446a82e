import Componentry.CommandLine.Arguments
import Componentry.CommandLine.Report
import Componentry.Composition.Extensions
import Componentry.Settings

/-
  Running commands.

  The settings are resolved first, also for commands that do
  not need them.  A command about installed components builds
  a registry over the directories of the settings.

  Key definitions:
    * `CommandLine.Surroundings`
    * `CommandLine.Failure`
    * `CommandLine.openRegistry`
    * `CommandLine.answer`, `CommandLine.run`
-/

------------------------------------------------------------
-- Failures
------------------------------------------------------------

namespace Componentry

namespace CommandLine

/- What a command works in. -/
structure Surroundings where
  tree : FileTree
  -- The search path of the environment, if it is set.
  searchPath : Option String

/- Why a command fails. -/
inductive Failure where
  | settings (error : SettingsError)
  | registry (error : RegistryError)
  | compose (error : ComposeError)

/- What went wrong, the widest circumstance first. -/
def Failure.chain : Failure → List String
  | .settings error => error.chain
  | .registry error => [error.message]
  | .compose error => [error.message]

end CommandLine

end Componentry

------------------------------------------------------------
-- Opening a Registry
------------------------------------------------------------

namespace Componentry

namespace CommandLine

/- A registry that is built, its store, and the report. -/
structure Opened where
  registry : Registry
  store : Store
  report : RebuildReport

/- Build a registry over the directories of the settings. -/
def openRegistry
    (surroundings : Surroundings)
    (settings : Settings) :
    Except RegistryError Opened := do
  let registry ← Registry.create settings.registry
  let directories :=
    DirectoryStore.ofPaths
      (settings.storePaths surroundings.searchPath)
  let listed := directories.afterListing surroundings.tree
  let store := listed.view surroundings.tree
  match registry.rebuild store with
  | (.error error, _) => .error error
  | (.ok report, registry) => .ok ⟨registry, store, report⟩

end CommandLine

end Componentry

------------------------------------------------------------
-- Answering
------------------------------------------------------------

namespace Componentry

namespace CommandLine

/- The answer to a question. -/
def answerQuestion
    (opened : Opened) :
    Question → Except RegistryError Report
  | .rebuild =>
      .ok (.rebuilt opened.registry.naming.target opened.report)
  | .hasTypekit name =>
      .ok (.typekit name (opened.registry.hasTypekit name))
  | .projectModel name => do
      let (text, path) ←
        opened.registry.projectModel opened.store name
      .ok (.projectModel name path text)
  | .typekitModel name => do
      let (types, typeList) ←
        opened.registry.typekitModel opened.store name
      .ok (.typekitModel name types typeList)
  | .taskLibrary model =>
      .ok (.ownership "task_library" model
        (opened.registry.taskLibraryOwning? model))
  | .deploymentProject name =>
      .ok (.ownership "project" name
        (opened.registry.projectOwning? name))
  | .deployments task =>
      .ok (.deployments task
        (opened.registry.deploymentsContaining task).toList)

/- The answer of a command. -/
def answer
    (surroundings : Surroundings)
    (settings : Settings) :
    Command → Except Failure Report
  | .ask question =>
      Except.mapError .registry do
        let opened ← openRegistry surroundings settings
        answerQuestion opened question
  | .plugins =>
      Except.mapError .compose do
        let extensions ← Extensions.builtin
        .ok (.nameList "Marshaller plugins:"
          extensions.plugins.names)
  | .initializers =>
      Except.mapError .compose do
        let extensions ← Extensions.builtin
        .ok (.nameList "Global initializers:"
          extensions.initializers.names)
  | .compose project deployment initializers =>
      Except.mapError .compose do
        let extensions ← Extensions.builtin
        let composed ←
          extensions.initializers.compose initializers
            ⟨project, deployment⟩
        .ok (.composition composed)

end CommandLine

end Componentry

------------------------------------------------------------
-- Running
------------------------------------------------------------

namespace Componentry

namespace CommandLine

/- An answer in the format that is asked for. -/
def layOut
    (format : Format)
    (colored : Bool)
    (elapsed : String)
    (report : Report) :
    String :=
  match format with
  | .text => report.text colored elapsed
  | .json => report.document.pretty ++ "\n"

/- Run a command: what it prints, or why it fails. -/
def run
    (surroundings : Surroundings)
    (colored : Bool)
    (elapsed : String)
    (invocation : Invocation) :
    Except Failure String := do
  let settings ←
    Except.mapError .settings
      (Settings.resolve surroundings.tree invocation.config
        invocation.target invocation.searchPaths)
  let report ←
    answer surroundings settings invocation.command
  .ok (layOut invocation.format colored elapsed report)

end CommandLine

end Componentry
