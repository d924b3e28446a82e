import Componentry.Composition.Plugin.Corba
import Componentry.Composition.Plugin.MessageQueue
import Componentry.Composition.Plugin.Ros
import Componentry.Composition.Plugin.TypeInfo
import Componentry.Composition.Plugin.Typelib
import Componentry.Composition.QtInitializers
import Componentry.Composition.TaskCode

/-
  The extensions that generation works with: plugins,
  initializers and the generators of task code.

  Key definitions:
    * `Plugin.builtin`, `PluginRegistry.builtin`
    * `Extensions`, `Extensions.builtin`
-/

------------------------------------------------------------
-- Built-in Plugins
------------------------------------------------------------

namespace Componentry

/- The built-in plugins, in the order of registration. -/
def Plugin.builtin : List Plugin :=
  [.ros, .corba, .messageQueue, .typeInfo, .typelib]

/- The registry of the built-in plugins. -/
def PluginRegistry.builtin : PluginRegistry :=
  ⟨Plugin.builtin⟩

end Componentry

------------------------------------------------------------
-- Extensions
------------------------------------------------------------

namespace Componentry

/- All that generation may be extended by. -/
structure Extensions where
  plugins : PluginRegistry
  initializers : InitializerRegistry
  capabilities : Capabilities

/- The built-in extensions. -/
def Extensions.builtin : Except ComposeError Extensions := do
  let initializers ← InitializerRegistry.builtin
  .ok ⟨.builtin, initializers, .builtin⟩

end Componentry
