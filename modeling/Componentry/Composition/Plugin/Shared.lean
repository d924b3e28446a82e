import Componentry.Composition.Plugin.Basic
import Componentry.Composition.TypeName

/-
  What the built-in plugins have in common: the first line of
  a generated file, the identifier of a type, and the build
  description of a transport.

  Key definitions:
    * `Plugin.banner`
    * `Plugin.typeCode`
    * `Plugin.transportLibrary`
-/

------------------------------------------------------------
-- Generated Files
------------------------------------------------------------

namespace Componentry

namespace Plugin

/- The first line of a generated file. -/
def banner
    (plugin : String)
    (kit : Kit) :
    String :=
  "/* Generated by the " ++ plugin ++ " plugin for the "
    ++ kit.name ++ " typekit. Do not edit. */"

/- The names that a type has in generated code. -/
structure TypeCode where
  -- The name in the type registry.
  name : String
  -- The identifier in generated names.
  identifier : String
deriving DecidableEq, Repr

/- The C++ name of a type. -/
def TypeCode.cxx (type : TypeCode) : String :=
  TypeName.cxx type.name

/- The names of a type, which needs an identifier. -/
def typeCode
    (plugin : String)
    (name : String) :
    Except ComposeError TypeCode :=
  let identifier := TypeName.method name
  if identifier.isEmpty then
    .error <| .plugin plugin
      ("cannot derive a C++ identifier for type " ++ name)
  else .ok ⟨name, identifier⟩

/- The names of the exported types of a typekit. -/
def typeCodes
    (plugin : String)
    (kit : Kit) :
    Except ComposeError (List TypeCode) :=
  kit.exported.mapM (typeCode plugin)

/- The head of the function that registers a transport. -/
def registrationHead
    (kit : Kit)
    (transport : String) :
    List String :=
  ["bool orogen_typekits::" ++ kit.name ++ transport
     ++ "TransportPlugin::registerTransport(std::string type_name, RTT::types::TypeInfo* ti)",
   "\x7b"]

/- Registering the protocol of a type. -/
def registrationCase
    (type : TypeCode)
    (protocol : String)
    (marshaller : String) :
    List String :=
  ["    if (\"" ++ type.name ++ "\" == type_name)",
   "        return ti->addProtocol(" ++ protocol ++ ", "
     ++ marshaller ++ ");"]

/- The end of the function that registers a transport. -/
def registrationEnd : List String :=
  ["    return false;", "\x7d"]

end Plugin

end Componentry

------------------------------------------------------------
-- Build Descriptions
------------------------------------------------------------

namespace Componentry

namespace Plugin

/- The build description of a transport over some files. -/
def transportLibrary
    (kit : Kit)
    (transport : String)
    (sources : List String) :
    Contribution :=
  let target :=
    kit.name ++ "-transport-" ++ transport
      ++ "-$\x7bOROCOS_TARGET\x7d"
  .build <| Text.unlines <|
    ["# " ++ transport ++ " transport of the " ++ kit.name
       ++ " typekit",
     "add_library(" ++ target ++ " SHARED"]
    ++ sources.map ("    " ++ ·)
    ++ [")",
     "target_link_libraries(" ++ target ++ " " ++ kit.name
       ++ "-typekit-$\x7bOROCOS_TARGET\x7d)",
     "install(TARGETS " ++ target
       ++ " LIBRARY DESTINATION lib/orocos$\x7bOROCOS_PKG_DIR\x7d/types)"]

end Plugin

end Componentry
