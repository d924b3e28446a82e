import Componentry.Registry.Basic
import Componentry.Store.Directory
import Componentry.Toml.Parser

/-
  The settings that commands work with.

  Settings are read from a configuration file if one is named.
  What the command line gives replaces what the file says.
  Fields that are not known are ignored, those that are
  missing have defaults.  Where no directories are given, the
  search path of the environment is used.

  Key definitions:
    * `Settings`, `Settings.ofEntries?`
    * `SettingsError`
    * `Settings.load`, `Settings.resolve`
    * `Settings.storePaths`
-/

------------------------------------------------------------
-- Settings
------------------------------------------------------------

namespace Componentry

/- The names of the registry and the directories to search. -/
structure Settings where
  registry : Configuration
  searchPaths : List Path
deriving DecidableEq, Repr

namespace Settings

/- The settings used unless others are chosen. -/
def default : Settings :=
  ⟨Configuration.default, []⟩

/- A text, or a default where there is none. -/
def textOr?
    (absent : String) :
    Option Toml → Option String
  | none => some absent
  | some value => value.text?

/- The names of the registry: a target and a namespace. -/
def names?
    (target space : Option Toml) :
    Option Configuration := do
  let target ← textOr? Configuration.default.target target
  let space ← textOr? Configuration.default.space space
  some ⟨target, space⟩

/-
  The names of the registry in a value: a table, or an array
  that holds them in order.  A date has none of them.
-/
def registry? : Toml → Option Configuration
  | .table _ entries =>
      names? (Toml.field? entries "target")
        (Toml.field? entries "namespace")
  | .moment _ => names? none none
  | value =>
      value.items?.bind fun items => names? items[0]? items[1]?

/- The directories in a value. -/
def searchPaths? (value : Toml) : Option (List Path) :=
  value.items?.bind fun items =>
    items.mapM fun item => item.text?.map Path.mk

/- The settings in a document. -/
def ofEntries? (entries : Toml.Entries) : Option Settings := do
  let registry ←
    match Toml.field? entries "registry" with
    | none => some Configuration.default
    | some value => registry? value
  let searchPaths ←
    match Toml.field? entries "search_paths" with
    | none => some []
    | some value => searchPaths? value
  some ⟨registry, searchPaths⟩

end Settings

end Componentry

------------------------------------------------------------
-- Configuration Files
------------------------------------------------------------

namespace Componentry

/- Why a configuration file could not be used. -/
inductive SettingsError where
  | unreadable (file : Path)
  | invalid (file : Path)
deriving DecidableEq, Repr

/- What went wrong, the widest circumstance first. -/
def SettingsError.chain : SettingsError → List String
  | .unreadable file =>
      ["cannot read configuration file " ++ file.text]
  | .invalid file =>
      ["in " ++ file.text, "invalid configuration"]

namespace Settings

/- The settings in a configuration file. -/
def load
    (tree : FileTree)
    (file : Path) :
    Except SettingsError Settings :=
  match tree.read file with
  | .error _ => .error (.unreadable file)
  | .ok bytes =>
      match Text.decodeUtf8 bytes with
      | .error _ => .error (.unreadable file)
      | .ok text =>
          match (Toml.parse text).bind ofEntries? with
          | none => .error (.invalid file)
          | some settings => .ok settings

end Settings

end Componentry

------------------------------------------------------------
-- Resolution
------------------------------------------------------------

namespace Componentry

namespace Settings

/- Settings with what the command line gives. -/
def overridden
    (settings : Settings)
    (target : Option String)
    (searchPaths : List Path) :
    Settings where
  registry :=
    { settings.registry with
      target := target.getD settings.registry.target }
  searchPaths :=
    if searchPaths.isEmpty then settings.searchPaths
    else searchPaths

/- The settings of a command. -/
def resolve
    (tree : FileTree)
    (file : Option Path)
    (target : Option String)
    (searchPaths : List Path) :
    Except SettingsError Settings := do
  let settings ←
    match file with
    | none => .ok default
    | some file => load tree file
  .ok (settings.overridden target searchPaths)

/- The directories of a search path of the environment. -/
def environmentPaths : Option String → List Path
  | none => []
  | some text => (Text.splitAt ':' text).map Path.mk

/- The directories that are searched for descriptors. -/
def storePaths
    (settings : Settings)
    (environment : Option String) :
    List Path :=
  if settings.searchPaths.isEmpty then
    environmentPaths environment
  else settings.searchPaths

end Settings

end Componentry
