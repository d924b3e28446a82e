import Componentry.Composition.Element
import Componentry.Composition.Template

/-
  What may go wrong in composing extensions.

  A fault of the configuration is one of a registration, a
  request, a template or a task context.  A plugin may also
  fail by itself.

  Key definitions:
    * `ConfigFault`
    * `ComposeError`
-/

------------------------------------------------------------
-- Faults of the Configuration
------------------------------------------------------------

namespace Componentry

/- Why extensions or requests do not fit together. -/
inductive ConfigFault where
  | template (fault : TemplateFault)
  | unnamedInitializer
  | duplicateInitializer (name : String)
  | unknownInitializers (names : List String)
      (known : List String)
  | duplicatePlugin (name : String)
  | duplicateGenerator (kind : ElementKind)
  | missingGenerators (kinds : List ElementKind)
  | badElementName (task : String) (element : Element)
  | untypedElement (task : String) (element : Element)
  | badTaskName (name : String)
  | repeatedElement (task : String) (name : String)
  -- A fault that an extension describes itself.
  | described (text : String)
deriving DecidableEq, Repr

/- The text of a fault. -/
def ConfigFault.message : ConfigFault → String
  | .template fault => fault.message
  | .unnamedInitializer =>
      "global initializer name must not be empty"
  | .duplicateInitializer name =>
      "a global initializer called " ++ name
        ++ " is already registered"
  | .unknownInitializers names known =>
      "unknown global initializer(s) "
        ++ ", ".intercalate names
        ++ "; known initializers: " ++ ", ".intercalate known
  | .duplicatePlugin name =>
      "a marshaller plugin called " ++ name
        ++ " is already registered"
  | .duplicateGenerator kind =>
      "a generator for " ++ kind.title
        ++ " elements is already registered"
  | .missingGenerators kinds =>
      "no generator for "
        ++ ", ".intercalate (kinds.map (·.title))
        ++ " elements"
  | .badElementName task element =>
      element.kind.title ++ " name "
        ++ Text.quote element.name ++ " of task " ++ task
        ++ " is not a valid identifier"
  | .untypedElement task element =>
      element.kind.title ++ " " ++ element.name
        ++ " of task " ++ task ++ " has no type"
  | .badTaskName name =>
      "task context name " ++ Text.quote name
        ++ " is not a valid identifier"
  | .repeatedElement task name =>
      "task context " ++ task ++ " declares " ++ name
        ++ " twice"
  | .described text => text

end Componentry

------------------------------------------------------------
-- Errors
------------------------------------------------------------

namespace Componentry

/- Why a composition failed. -/
inductive ComposeError where
  | config (fault : ConfigFault)
  | plugin (name : String) (message : String)
deriving DecidableEq, Repr

namespace ComposeError

/- Is this a fault of the configuration? -/
def isConfig : ComposeError → Bool
  | .config _ => true
  | .plugin _ _ => false

/- The text of an error. -/
def message : ComposeError → String
  | .config fault => "configuration error: " ++ fault.message
  | .plugin name message =>
      "plugin error in '" ++ name ++ "': " ++ message

end ComposeError

end Componentry
