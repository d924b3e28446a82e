import Componentry.Composition.Fault
import Componentry.Text.Layout

/-
  Global initializers and their composition.

  An initializer contributes to every deployment that asks for
  it: code at global scope, code run at the start and at the
  end, and fragments of build descriptions.  All of them are
  templates over the names of the project and the deployment.

  Requests are resolved all at once.  The initializers asked
  for are composed in the order of their registration, each
  once; the code run at the end is composed in the opposite
  order.

  Key definitions:
    * `BuildTarget`
    * `Fragment`
    * `Initializer`
    * `InitializerRegistry`, `InitializerRegistry.register`
    * `InitializerRegistry.resolve`
    * `InitializerRegistry.compose`
-/

------------------------------------------------------------
-- Fragments
------------------------------------------------------------

namespace Componentry

/- The build descriptions that fragments are appended to. -/
inductive BuildTarget where
  -- Linking the task library.
  | taskLibrary
  -- Linking the deployment.
  | deployment
  -- Finding what the task library depends on.
  | taskLibraryDependencies
deriving DecidableEq, Repr

namespace BuildTarget

/- All targets, in order. -/
def all : List BuildTarget :=
  [.taskLibrary, .deployment, .taskLibraryDependencies]

/- The name of a target. -/
def key : BuildTarget → String
  | .taskLibrary => "task_library"
  | .deployment => "deployment"
  | .taskLibraryDependencies => "task_library_dependencies"

/- The target with a given name. -/
def ofKey? (key : String) : Option BuildTarget :=
  all.find? (·.key == key)

end BuildTarget

/- The parameters of every fragment. -/
def fragmentParameters : List String :=
  ["project", "deployment"]

/- A template over the parameters of fragments. -/
abbrev Fragment :=
  { template : Template //
    template.parameters = fragmentParameters }

/- The fragment of a text. -/
def Fragment.ofText
    (source : String) :
    Except TemplateFault Fragment :=
  match h : Template.ofText source fragmentParameters with
  | .error fault => .error fault
  | .ok template =>
      .ok ⟨template, Template.parameters_of_ofText h⟩

/- The names of the deployment that is generated. -/
structure DeploymentNames where
  project : String
  deployment : String
deriving DecidableEq, Repr

/- The values of the parameters of fragments. -/
def DeploymentNames.value?
    (names : DeploymentNames)
    (parameter : String) :
    Option String :=
  if parameter = "project" then some names.project
  else if parameter = "deployment" then some names.deployment
  else none

end Componentry

------------------------------------------------------------
-- Initializers
------------------------------------------------------------

namespace Componentry

/- A named bundle of fragments. -/
structure Initializer where
  name : String
  globalScope : Option Fragment
  init : Option Fragment
  exit : Option Fragment
  build : BuildTarget → Option Fragment

namespace Initializer

/- An initializer without fragments. -/
def named (name : String) : Initializer :=
  ⟨name, none, none, none, fun _ => none⟩

/- Set the code at global scope. -/
def withGlobalScope
    (initializer : Initializer)
    (text : String) :
    Except TemplateFault Initializer := do
  let fragment ← Fragment.ofText text
  .ok { initializer with globalScope := some fragment }

/- Set the code run at the start. -/
def withInit
    (initializer : Initializer)
    (text : String) :
    Except TemplateFault Initializer := do
  let fragment ← Fragment.ofText text
  .ok { initializer with init := some fragment }

/- Set the code run at the end. -/
def withExit
    (initializer : Initializer)
    (text : String) :
    Except TemplateFault Initializer := do
  let fragment ← Fragment.ofText text
  .ok { initializer with exit := some fragment }

/- Set the fragment of a build description. -/
def withBuild
    (initializer : Initializer)
    (target : BuildTarget)
    (text : String) :
    Except TemplateFault Initializer := do
  let fragment ← Fragment.ofText text
  .ok
    { initializer with
      build := fun other =>
        if other = target then some fragment
        else initializer.build other }

/- The targets that an initializer contributes to. -/
def targets (initializer : Initializer) : List BuildTarget :=
  BuildTarget.all.filter fun target =>
    (initializer.build target).isSome

/- Does an initializer contribute code? -/
def hasCode (initializer : Initializer) : Bool :=
  initializer.globalScope.isSome
    || initializer.init.isSome
    || initializer.exit.isSome

end Initializer

end Componentry

------------------------------------------------------------
-- The Registry
------------------------------------------------------------

namespace Componentry

/- Initializers in the order of their registration. -/
structure InitializerRegistry where
  initializers : List Initializer

namespace InitializerRegistry

/- The registry without initializers. -/
def empty : InitializerRegistry :=
  ⟨[]⟩

/- The names of all initializers. -/
def names (registry : InitializerRegistry) : List String :=
  registry.initializers.map (·.name)

/- The initializer with a given name. -/
def find?
    (registry : InitializerRegistry)
    (name : String) :
    Option Initializer :=
  registry.initializers.find? (·.name == name)

/-
  Add an initializer with a new name that is not blank; no
  other one is added.
-/
def register
    (registry : InitializerRegistry)
    (initializer : Initializer) :
    Except ComposeError Unit × InitializerRegistry :=
  if Text.isBlankText initializer.name then
    (.error (.config .unnamedInitializer), registry)
  else if registry.names.contains initializer.name then
    (.error (.config (.duplicateInitializer initializer.name)),
      registry)
  else (.ok (), ⟨registry.initializers ++ [initializer]⟩)

/- Sort names and drop repetitions. -/
def sortNames (names : List String) : List String :=
  (names.mergeSort fun a b => decide (a ≤ b)).eraseDups

/-
  The initializers asked for, in the order of registration.
  Every name asked for must be registered.
-/
def resolve
    (registry : InitializerRegistry)
    (requested : List String) :
    Except ComposeError (List Initializer) :=
  let known := registry.names
  let unknown := requested.filter (!known.contains ·)
  if unknown.isEmpty then
    .ok <| registry.initializers.filter fun initializer =>
      requested.contains initializer.name
  else
    .error <| .config <|
      .unknownInitializers (sortNames unknown) known

end InitializerRegistry

end Componentry

------------------------------------------------------------
-- Composition
------------------------------------------------------------

namespace Componentry

/- The texts composed for a deployment. -/
structure ComposedInitializers where
  initializers : List String
  globalScope : String
  init : String
  exit : String
  build : BuildTarget → Option String

namespace InitializerRegistry

/- The texts of some fragments, in order. -/
def renderAll
    (names : DeploymentNames)
    (fragments : List Fragment) :
    Except TemplateFault (List String) :=
  fragments.mapM fun fragment =>
    fragment.val.render names.value?

/- One text after the other, each ended; empty ones vanish. -/
def appendTexts : List String → String
  | [] => ""
  | text :: rest =>
      (if text.isEmpty then "" else Text.closed text)
        ++ appendTexts rest

/- The composed text of some fragments. -/
def composeTexts
    (names : DeploymentNames)
    (fragments : List Fragment) :
    Except ComposeError String :=
  match renderAll names fragments with
  | .error fault => .error (.config (.template fault))
  | .ok texts => .ok (appendTexts texts)

/- The composed text of a target, if it has fragments. -/
def composeTarget
    (names : DeploymentNames)
    (selected : List Initializer)
    (target : BuildTarget) :
    Except ComposeError (Option String) :=
  match selected.filterMap (·.build target) with
  | [] => .ok none
  | fragments => do
      let text ← composeTexts names fragments
      .ok (some text)

/- Compose initializers in the order of registration. -/
def composeSelected
    (names : DeploymentNames)
    (selected : List Initializer) :
    Except ComposeError ComposedInitializers := do
  let globalScope ←
    composeTexts names (selected.filterMap (·.globalScope))
  let init ← composeTexts names (selected.filterMap (·.init))
  let taskLibrary ← composeTarget names selected .taskLibrary
  let deployment ← composeTarget names selected .deployment
  let dependencies ←
    composeTarget names selected .taskLibraryDependencies
  let exit ←
    composeTexts names (selected.reverse.filterMap (·.exit))
  .ok
    { initializers := selected.map (·.name)
      globalScope, init, exit
      build := fun
        | .taskLibrary => taskLibrary
        | .deployment => deployment
        | .taskLibraryDependencies => dependencies }

/- Compose the initializers asked for by a deployment. -/
def compose
    (registry : InitializerRegistry)
    (requested : List String)
    (names : DeploymentNames) :
    Except ComposeError ComposedInitializers := do
  let selected ← registry.resolve requested
  composeSelected names selected

end InitializerRegistry

namespace ComposedInitializers

/- The targets that have a text, each with it, in order. -/
def buildTexts
    (composed : ComposedInitializers) :
    List (BuildTarget × String) :=
  BuildTarget.all.filterMap fun target =>
    (composed.build target).map fun text => (target, text)

end ComposedInitializers

end Componentry
