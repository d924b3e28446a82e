import Componentry.Path

/-
  What a command line may ask for.

  A command line names one command.  Some options belong to
  every command and may stand before its name or behind it,
  others to one command only.

  Key definitions:
    * `CommandLine.Switch`
    * `CommandLine.Verb`
    * `CommandLine.Question`, `CommandLine.Command`
    * `CommandLine.Invocation`
-/

------------------------------------------------------------
-- Options
------------------------------------------------------------

namespace Componentry

namespace CommandLine

/- An option. -/
inductive Switch where
  | verbose
  | format
  | config
  | target
  | searchPath
  | project
  | deployment
  | help
  | version
deriving DecidableEq, Repr

/- How answers are written. -/
inductive Format where
  | text
  | json
deriving DecidableEq, Repr

/- The format that a word names. -/
def Format.ofName? (name : String) : Option Format :=
  if name = "text" then some .text
  else if name = "json" then some .json
  else none

namespace Switch

/- The name of an option, behind two dashes. -/
def long : Switch → String
  | .verbose => "verbose"
  | .format => "format"
  | .config => "config"
  | .target => "target"
  | .searchPath => "search-path"
  | .project => "project"
  | .deployment => "deployment"
  | .help => "help"
  | .version => "version"

/- The letter of an option, behind one dash. -/
def letter? : Switch → Option Char
  | .verbose => some 'v'
  | .help => some 'h'
  | .version => some 'V'
  | _ => none

/- Has an option a value? -/
def takesValue : Switch → Bool
  | .verbose => false
  | .help => false
  | .version => false
  | _ => true

/- May an option be given more than once? -/
def repeats : Switch → Bool
  | .searchPath => true
  | _ => false

/- May this be the value of an option? -/
def admits
    (switch : Switch)
    (value : String) :
    Bool :=
  match switch with
  | .format => (Format.ofName? value).isSome
  | .config => value != ""
  | .searchPath => value != ""
  | _ => true

/- The options of every command. -/
def common : List Switch :=
  [.verbose, .format, .config, .target, .searchPath, .help]

/- The options that may stand before the command. -/
def leading : List Switch :=
  common ++ [.version]

end Switch

end CommandLine

end Componentry

------------------------------------------------------------
-- Commands
------------------------------------------------------------

namespace Componentry

namespace CommandLine

/- The kind of a command. -/
inductive Verb where
  | rebuild
  | hasTypekit
  | projectModel
  | typekitModel
  | taskLibrary
  | deploymentProject
  | deployments
  | plugins
  | initializers
  | compose
deriving DecidableEq, Repr

/- A question about the installed components. -/
inductive Question where
  | rebuild
  | hasTypekit (name : String)
  | projectModel (name : String)
  | typekitModel (name : String)
  | taskLibrary (model : String)
  | deploymentProject (name : String)
  | deployments (task : String)
deriving DecidableEq, Repr

/- A command and what it is about. -/
inductive Command where
  | ask (question : Question)
  | plugins
  | initializers
  | compose (project : String) (deployment : String)
      (initializers : List String)
deriving DecidableEq, Repr

namespace Verb

/- All kinds of commands. -/
def all : List Verb :=
  [.rebuild, .hasTypekit, .projectModel, .typekitModel,
    .taskLibrary, .deploymentProject, .deployments, .plugins,
    .initializers, .compose]

/- The name of a command. -/
def name : Verb → String
  | .rebuild => "rebuild"
  | .hasTypekit => "has-typekit"
  | .projectModel => "project-model"
  | .typekitModel => "typekit-model"
  | .taskLibrary => "task-library"
  | .deploymentProject => "deployment-project"
  | .deployments => "deployments"
  | .plugins => "plugins"
  | .initializers => "initializers"
  | .compose => "compose"

/- What a command is for. -/
def summary : Verb → String
  | .rebuild =>
      "Scan the descriptors and report what was registered"
  | .hasTypekit => "Check whether a typekit is installed"
  | .projectModel =>
      "Print the specification text of a project"
  | .typekitModel =>
      "Print the type registry and type list of a typekit"
  | .taskLibrary =>
      "Show the task library defining a task model"
  | .deploymentProject =>
      "Show the project defining a deployment"
  | .deployments =>
      "List the deployments instantiating a task"
  | .plugins =>
      "List marshaller plugins in registration order"
  | .initializers =>
      "List global initializers in registration order"
  | .compose =>
      "Render global initializers for a deployment"

/- The command that a word names. -/
def ofName? (name : String) : Option Verb :=
  all.find? (·.name = name)

/- The options that may stand behind a command. -/
def switches : Verb → List Switch
  | .compose => Switch.common ++ [.project, .deployment]
  | _ => Switch.common

/- How many words may follow a command, if that is limited. -/
def room : Verb → Option Nat
  | .rebuild => some 0
  | .plugins => some 0
  | .initializers => some 0
  | .compose => none
  | _ => some 1

/- The command with the words and options that it needs. -/
def command?
    (verb : Verb)
    (value? : Switch → Option String)
    (words : List String) :
    Option Command :=
  let about (question : String → Question) :=
    words.head?.map fun word => Command.ask (question word)
  match verb with
  | .rebuild => some (.ask .rebuild)
  | .hasTypekit => about .hasTypekit
  | .projectModel => about .projectModel
  | .typekitModel => about .typekitModel
  | .taskLibrary => about .taskLibrary
  | .deploymentProject => about .deploymentProject
  | .deployments => about .deployments
  | .plugins => some .plugins
  | .initializers => some .initializers
  | .compose => do
      let project ← value? .project
      let deployment ← value? .deployment
      some (.compose project deployment words)

end Verb

end CommandLine

end Componentry

------------------------------------------------------------
-- Invocations
------------------------------------------------------------

namespace Componentry

namespace CommandLine

/- A command and the options of every command. -/
structure Invocation where
  command : Command
  verbose : Bool
  format : Format
  config : Option Path
  target : Option String
  searchPaths : List Path
deriving DecidableEq, Repr

end CommandLine

end Componentry
