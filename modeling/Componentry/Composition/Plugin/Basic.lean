import Componentry.Composition.Fault
import Componentry.Path
import Componentry.Text.Layout
import Componentry.TypeList

/-
  Marshaller plugins.

  A plugin looks at a typekit and contributes generated files
  and parts of the build description.  Plugins run in the
  order of their registration; the first failure ends the run.
  A generated file must stay inside the typekit's directory.

  Key definitions:
    * `KitType`, `Kit`
    * `ContributionKind`, `Contribution`, `Plugin`
    * `PluginRegistry`, `PluginRegistry.register`
    * `PluginRegistry.run`
-/

------------------------------------------------------------
-- What Plugins See
------------------------------------------------------------

namespace Componentry

/- A type of a typekit. -/
structure KitType where
  name : String
  exported : Bool
deriving DecidableEq, Repr

/- A typekit with its types in order. -/
structure Kit where
  name : String
  project : String
  types : List KitType
deriving DecidableEq, Repr

namespace Kit

/- The typekit with the types of a type list. -/
def ofTypeList
    (name : String)
    (project : String)
    (list : TypeList) :
    Kit where
  name := name
  project := project
  types :=
    list.all.map fun type => ⟨type, list.isExported type⟩

/- The names of the exported types. -/
def exported (kit : Kit) : List String :=
  (kit.types.filter (·.exported)).map (·.name)

end Kit

end Componentry

------------------------------------------------------------
-- What Plugins Contribute
------------------------------------------------------------

namespace Componentry

/- What a piece of generated text is. -/
inductive ContributionKind where
  -- A file below the typekit's directory.
  | source
  -- A part of the typekit's build description.
  | build
deriving DecidableEq, Repr

/- A piece of generated text. -/
structure Contribution where
  -- Its plugin, which the registry enters.
  plugin : String
  kind : ContributionKind
  -- Below the typekit's directory; only files have one.
  path : Path
  text : String
deriving DecidableEq, Repr

/- A provider of generated text. -/
structure Plugin where
  name : String
  contribute : Kit → Except ComposeError (List Contribution)

/- All contributions to a typekit, in order. -/
structure KitContributions where
  kit : String
  contributions : List Contribution
deriving DecidableEq, Repr

namespace Contribution

/- A file. -/
def source
    (path : Path)
    (text : String) :
    Contribution where
  plugin := ""
  kind := .source
  path := path
  text := text

/- A part of the build description. -/
def build (text : String) : Contribution where
  plugin := ""
  kind := .build
  path := ⟨""⟩
  text := text

/- The path and the text of a file. -/
def source?
    (contribution : Contribution) :
    Option (Path × String) :=
  match contribution.kind with
  | .source => some (contribution.path, contribution.text)
  | .build => none

/- The text of a part of the build description. -/
def build? (contribution : Contribution) : Option String :=
  match contribution.kind with
  | .source => none
  | .build => some contribution.text

/- The contribution with the name of a plugin entered. -/
def withPlugin
    (contribution : Contribution)
    (plugin : String) :
    Contribution :=
  { contribution with plugin := plugin }

end Contribution

namespace KitContributions

/- The files among the contributions. -/
def sources
    (made : KitContributions) :
    List (Path × String) :=
  made.contributions.filterMap (·.source?)

/- The parts of the build description, each ended. -/
def buildFragment (made : KitContributions) : String :=
  String.join <|
    (made.contributions.filterMap (·.build?)).map Text.closed

end KitContributions

end Componentry

------------------------------------------------------------
-- The Registry
------------------------------------------------------------

namespace Componentry

/- Plugins in the order of their registration. -/
structure PluginRegistry where
  plugins : List Plugin

namespace PluginRegistry

/- The registry without plugins. -/
def empty : PluginRegistry :=
  ⟨[]⟩

/- The names of all plugins. -/
def names (registry : PluginRegistry) : List String :=
  registry.plugins.map (·.name)

/- Add a plugin with a new name; no other one is added. -/
def register
    (registry : PluginRegistry)
    (plugin : Plugin) :
    Except ComposeError Unit × PluginRegistry :=
  if registry.names.contains plugin.name then
    (.error (.config (.duplicatePlugin plugin.name)), registry)
  else (.ok (), ⟨registry.plugins ++ [plugin]⟩)

end PluginRegistry

end Componentry

------------------------------------------------------------
-- Running Plugins
------------------------------------------------------------

namespace Componentry

namespace PluginRegistry

/- Check the path of a contribution, if it is a file. -/
def checkPath
    (plugin : String)
    (contribution : Contribution) :
    Except ComposeError Unit :=
  match contribution.kind with
  | .build => .ok ()
  | .source =>
      if contribution.path.isOrdinary then .ok ()
      else
        .error
          (.plugin plugin
            ("invalid output path " ++ contribution.path.text))

/- Stamp contributions, checking the paths of files. -/
def stamp
    (plugin : String) :
    List Contribution → Except ComposeError (List Contribution)
  | [] => .ok []
  | contribution :: rest => do
      checkPath plugin contribution
      let stamped ← stamp plugin rest
      .ok (contribution.withPlugin plugin :: stamped)

/- Run one plugin after the other. -/
def runAll
    (kit : Kit) :
    List Plugin → Except ComposeError (List Contribution)
  | [] => .ok []
  | plugin :: rest => do
      let made ← plugin.contribute kit
      let stamped ← stamp plugin.name made
      let others ← runAll kit rest
      .ok (stamped ++ others)

/- The contributions of all plugins to a typekit. -/
def run
    (registry : PluginRegistry)
    (kit : Kit) :
    Except ComposeError KitContributions := do
  let contributions ← runAll kit registry.plugins
  .ok ⟨kit.name, contributions⟩

end PluginRegistry

end Componentry
